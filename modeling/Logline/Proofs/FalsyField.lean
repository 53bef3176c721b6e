import Logline.Proofs.Line
import Logline.Proofs.Query
/-!
Fields with nothing in them. For a field that is absent or falsy a directive substitutes the empty
text, whatever its type; the notation of the type then decides what is seen of it. Text shows
nothing, but a number is not read from the empty text, and as JSON it has its quotes.
-/
namespace Logline

namespace Json

/-- Values with nothing in them: null, false, zero, no number, and the empty text. -/
inductive Falsy : Json → Prop
  | null : Falsy .null
  | bool : Falsy (.bool false)
  | int : Falsy (.num (.int 0))
  | float {x : Binary64} : x.isZero = true → Falsy (.num (.float x))
  | nan : Falsy (.num (.float .nan))
  | str : Falsy (.str "")

theorem isTruthy_eq_false_iff {v : Json} : v.isTruthy = false ↔ v.Falsy := by
  constructor
  · intro h
    unfold isTruthy at h
    split at h
    · exact .null
    · subst h
      exact .bool
    · rw [bne_eq_false_iff_eq] at h
      subst h
      exact .int
    · rw [Bool.and_eq_false_iff, Bool.not_eq_false', bne_eq_false_iff_eq] at h
      obtain hzero | rfl := h
      · exact .float hzero
      · exact .nan
    · rw [bne_eq_false_iff_eq] at h
      subst h
      exact .str
    · cases h
    · cases h
  · intro h
    cases h with
    | float hzero => rw [isTruthy, hzero]; rfl
    | _ => rfl

end Json

namespace Record

/-- A field that is absent or has nothing in it. -/
def Lacks (r : Record) (key : String) : Prop :=
  ∀ v ∈ r.field? key, v.Falsy

variable {r : Record}

theorem lacks_iff {key : String} : r.Lacks key ↔ (r.field? key).filter Json.isTruthy = none := by
  simp only [Lacks, Option.filter_eq_none_iff, Bool.not_eq_true, Json.isTruthy_eq_false_iff]
  rfl

instance (key : String) : Decidable (r.Lacks key) :=
  decidable_of_iff _ lacks_iff.symm

theorem lacks_iff_falsy {key : String} {v : Json} (h : r.field? key = some v) :
    r.Lacks key ↔ v.Falsy := by
  rw [Lacks, h]
  simp

/-- A record on a whole second lacks the milliseconds within it. -/
theorem lacks_msecs_iff : r.Lacks "msecs" ↔ r.created.subsecMillis = 0 := by
  rw [lacks_iff_falsy rfl, ← Json.isTruthy_eq_false_iff, Json.isTruthy, bne_eq_false_iff_eq]
  exact Int.natCast_eq_zero

theorem lacks_levelno_iff : r.Lacks "levelno" ↔ r.level = .notSet := by
  rw [lacks_iff_falsy rfl, ← Json.isTruthy_eq_false_iff]
  cases r.level <;> decide

/-- A record of the first millisecond of the epoch lacks its time. -/
theorem lacks_created (h : r.created.millis = 0) : r.Lacks "created" := by
  have hfield : r.field? "created" =
      some (.num (.float ((Binary64.ofInt 0).div (.ofNat 1000)))) := by
    rw [← h]
    rfl
  rw [lacks_iff_falsy hfield]
  exact .float (by decide +kernel)

end Record

namespace Directive

variable {d : Directive} {r : Record}

/-- What is seen of a field with nothing in it. -/
def emptyText (d : Directive) : List Char :=
  match d.kind with
  | .string | .unknown _ => []
  | .int | .float =>
    Decimal.padLeft ' ' ((Placeholder.capped d.width).getD 0) Placeholder.notANumber
  | .object | .inspect => ['"', '"']

/-- The empty text is substituted whatever the type, and it is not padded. -/
theorem value_of_lacks (htime : d.isTime = false) (h : r.Lacks d.key) (timePattern : List Char) :
    d.value timePattern r = .str "" := by
  rw [value, htime, Record.lacks_iff.mp h]
  rfl

theorem text_of_lacks (htime : d.isTime = false) (h : r.Lacks d.key) (timePattern : List Char) :
    d.text timePattern r = d.emptyText := by
  -- Where a number is expected, the empty text is none.
  have hnumber : Placeholder.number? (.str "") = none := by decide +kernel
  rw [text, htime, value_of_lacks htime h, emptyText]
  cases hkind : d.kind with
  | string => rfl
  | int =>
    simp [Placeholder.format, Placeholder.body, Kind.letter, Placeholder.integerText,
      Placeholder.integer?, hnumber]
  | float =>
    simp [Placeholder.format, Placeholder.body, Kind.letter, Placeholder.decimalText, hnumber]
  | object => rfl
  | inspect => rfl
  | unknown letter => rfl

/-- Of a field with nothing in it something is seen exactly if the type is not text. -/
theorem emptyText_blank_iff (htime : d.isTime = false) (hknown : d.isKnown) :
    (∀ c ∈ d.emptyText, c = ' ') ↔ d.kind = .string := by
  have hseen {c : Char} (hc : c ∈ d.emptyText) (hvisible : c ≠ ' ') (hkind : d.kind ≠ .string) :
      (∀ c ∈ d.emptyText, c = ' ') ↔ d.kind = .string :=
    iff_of_false (fun h => hvisible (h c hc)) hkind
  cases hkind : d.kind with
  | string => simp [emptyText, hkind]
  | int | float =>
    rw [← hkind]
    refine hseen (c := 'N') ?_ (by decide) (by simp [hkind])
    simp [emptyText, hkind, Decimal.padLeft, Placeholder.notANumber]
  | object | inspect =>
    rw [← hkind]
    refine hseen (c := '"') ?_ (by decide) (by simp [hkind])
    simp [emptyText, hkind]
  | unknown letter => simp [isKnown, htime, hkind] at hknown

end Directive

namespace Directive

/-- For a field with nothing in it a line and a query show the same in the place of the directive,
and it is nothing, or only blanks, exactly if the type is text. -/
theorem shown_of_lacks {d : Directive} {r : Record} (hknown : d.isKnown) (htime : d.isTime = false)
    (h : r.Lacks d.key) :
    (d.emptyText = [] ↔ d.kind = .string) ∧
      ((∀ c ∈ d.emptyText, c = ' ') ↔ d.kind = .string) ∧
      (∀ (layout timePattern : List Char) (front rest : List Segment),
        Layout.PercentFree layout →
        Layout.segments (orElseText layout LineFormat.defaultLayout) =
          front ++ .directive d :: rest →
        let line := Segment.line
          (Time.strftime.checked (orElseText timePattern LineFormat.defaultTimePattern)) r
        ((LineFormat.make layout timePattern).message r).toPlain =
          front.flatMap line ++ d.emptyText ++ rest.flatMap line ++
            (r.error.map Json.compact).getD []) ∧
      ∀ (f : QueryFormat) (front rest : List Segment),
        Layout.segments f.layout = front ++ .directive d :: rest →
        f.query r = front.flatMap (f.segmentText r) ++ Text.Percent.encode d.emptyText ++
          rest.flatMap (f.segmentText r) ++ QueryFormat.errorWord r := by
  refine ⟨?_, emptyText_blank_iff htime hknown, ?_, ?_⟩
  · constructor
    · intro hempty
      rw [← emptyText_blank_iff htime hknown, hempty]
      simp
    · intro hkind
      rw [emptyText, hkind]
  · intro layout timePattern front rest hfree hsegments line
    rw [LineFormat.toPlain_eq_line hfree, Layout.line, hsegments]
    simp only [List.flatMap_append, List.flatMap_cons, Segment.line, text_of_lacks htime h,
      List.append_assoc, line]
  · intro f front rest hsegments
    rw [QueryFormat.query, hsegments, QueryFormat.errorWord]
    simp only [List.flatMap_append, List.flatMap_cons, QueryFormat.segmentText_directive, hknown,
      if_true, text_of_lacks htime h, List.append_assoc]

/-- On a whole second there are no milliseconds to show. -/
theorem shown_of_lacks_msecs :
    let d : Directive := ⟨"msecs", none, some 5, none, .int⟩
    let r : Record := ⟨.epoch, .info, "db", "", none, []⟩
    d.isKnown ∧ d.isTime = false ∧ r.Lacks d.key ∧
      ((LineFormat.make "%(name)s:%(msecs)5d".toList []).message r).toPlain =
        "db:  NaN".toList := by
  intro d r
  have hknown : d.isKnown := rfl
  have htime : d.isTime = false := rfl
  have hlacks : r.Lacks d.key := Record.lacks_msecs_iff.mpr (by decide)
  obtain ⟨-, -, hline, -⟩ := shown_of_lacks hknown htime hlacks
  have hshown := hline "%(name)s:%(msecs)5d".toList []
    [.directive ⟨"name", none, none, none, .string⟩, .text [':']] [] (by decide +kernel)
    (by decide +kernel)
  exact ⟨hknown, htime, hlacks, hshown.trans (by decide +kernel)⟩

/-- Zero shown as a whole number is not nothing, neither in a line nor in a query. -/
theorem shown_zero :
    let r : Record := ⟨.epoch, .info, "", "", none, [("zero", .num (.int 0))]⟩
    r.Lacks "zero" ∧
      Layout.segments "%(zero)d".toList = [.directive ⟨"zero", none, none, none, .int⟩] ∧
      ((LineFormat.make "%(zero)d".toList []).message r).toPlain = "NaN".toList ∧
      (QueryFormat.make "%(zero)d".toList []).query r = "NaN".toList := by
  decide +kernel

end Directive

end Logline
