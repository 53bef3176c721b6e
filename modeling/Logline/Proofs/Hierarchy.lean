import Logline.Record
/-!
The hierarchy of loggers. A logger's name consists of components between dots, and a filter on a
logger keeps the names that begin with its components. So a filter on a kept name keeps less, and so
does one with a higher level or more components.
-/
namespace Logline.Filter
open Text (splitAt)

/-- Names as the filter compares them: behind the ancestor's name nothing follows or a dot does. -/
theorem isWithin_iff {ancestor logger : List Char} :
    isWithin ancestor logger = true ↔
      ∃ rest, logger = ancestor ++ rest ∧ (rest = [] ∨ ∃ tail, rest = '.' :: tail) := by
  induction ancestor, logger using isWithin.induct with
  | case1 => simp [isWithin]
  | case2 c logger => simp [isWithin]
  | case3 a ancestor c logger ih =>
    rw [isWithin, Bool.and_eq_true, beq_iff_eq, ih]
    constructor
    · rintro ⟨rfl, rest, rfl, hrest⟩
      exact ⟨rest, rfl, hrest⟩
    · rintro ⟨rest, heq, hrest⟩
      obtain ⟨hc, hlogger⟩ := List.cons.inj heq
      exact ⟨hc.symm, rest, hlogger, hrest⟩
  | case4 a ancestor => simp [isWithin]

theorem intercalate_append (separator : List Char) {front more : List (List Char)}
    (hfront : front ≠ []) (hmore : more ≠ []) :
    separator.intercalate (front ++ more) =
      separator.intercalate front ++ (separator ++ separator.intercalate more) := by
  induction front with
  | nil => exact absurd rfl hfront
  | cons part front ih =>
    cases front with
    | nil =>
      obtain ⟨next, more, rfl⟩ := List.exists_cons_of_ne_nil hmore
      rw [List.singleton_append, List.intercalate_cons_cons, List.intercalate_singleton,
        List.append_assoc]
    | cons next front =>
      rw [List.cons_append, List.cons_append, List.intercalate_cons_cons, ← List.cons_append,
        ih (List.cons_ne_nil _ _), List.intercalate_cons_cons, ← List.append_assoc]

/-- Splitting at dots and joining with them are inverse, so a front of the components is a front of
the name that ends where a component does. -/
theorem isWithin_iff_splitAt {ancestor logger : List Char} :
    isWithin ancestor logger = true ↔ splitAt '.' ancestor <+: splitAt '.' logger := by
  have hjoin (cs : List Char) : ['.'].intercalate (splitAt '.' cs) = cs :=
    List.intercalate_splitOn '.'
  rw [isWithin_iff]
  constructor
  · rintro ⟨rest, rfl, rfl | ⟨tail, rfl⟩⟩
    · simp
    · exact ⟨splitAt '.' tail, (Text.splitAt_append_cons '.' ancestor tail).symm⟩
  · rintro ⟨more, hmore⟩
    by_cases hempty : more = []
    · rw [hempty, List.append_nil] at hmore
      refine ⟨[], ?_, .inl rfl⟩
      rw [← hjoin logger, ← hmore, hjoin, List.append_nil]
    · have hfront : splitAt '.' ancestor ≠ [] := List.splitOnP_ne_nil _ _
      refine ⟨'.' :: ['.'].intercalate more, ?_, .inr ⟨_, rfl⟩⟩
      rw [← hjoin logger, ← hmore, intercalate_append ['.'] hfront hempty, hjoin]
      rfl

/-- Components of a logger's name, the texts between its dots. -/
def components (name : String) : List (List Char) :=
  splitAt '.' name.toList

theorem acceptsName_iff (f : Filter) (name : String) :
    f.acceptsName name = true ↔
      ∀ logger ∈ f.logger, logger ≠ "" → components logger <+: components name := by
  rw [acceptsName]
  cases f.logger with
  | none => simp
  | some logger =>
    simp only [Bool.or_eq_true, beq_iff_eq, Option.mem_def, Option.some.injEq, forall_eq',
      isWithin_iff_splitAt]
    exact Decidable.or_iff_not_imp_left

theorem accepts_iff (f : Filter) (r : Record) :
    f.accepts r = true ↔ f.level ≤ r.level ∧
      ∀ logger ∈ f.logger, logger ≠ "" → components logger <+: components r.name := by
  rw [accepts, Bool.and_eq_true, decide_eq_true_eq, acceptsName_iff]

/-- No name but the empty one begins with the components of the empty one alone. -/
theorem ne_empty_of_components {name own : String} (hname : name ≠ "")
    (h : components name <+: components own) : own ≠ "" := by
  rintro rfl
  obtain ⟨rest, hrest, -⟩ := isWithin_iff.mp (isWithin_iff_splitAt.mpr h)
  have hnil : name.toList = [] := (List.append_eq_nil_iff.mp hrest.symm).1
  exact hname (String.toList_eq_nil_iff.mp hnil)

/-- Whether a filter asks for all that another asks for: its level is no lower, and where the other is
on a logger it is on one with the same components and perhaps further ones behind them. -/
def Narrows (g f : Filter) : Prop :=
  f.level ≤ g.level ∧
    ∀ logger ∈ f.logger, logger ≠ "" → ∃ own ∈ g.logger, components logger <+: components own

instance (g f : Filter) : Decidable (g.Narrows f) :=
  inferInstanceAs (Decidable (_ ∧ _))

variable {f g : Filter} {r : Record}

theorem Narrows.accepts (h : g.Narrows f) (hr : g.accepts r = true) : f.accepts r = true := by
  obtain ⟨hlevel, hlogger⟩ := h
  obtain ⟨hleast, hname⟩ := (g.accepts_iff r).mp hr
  refine (f.accepts_iff r).mpr ⟨Nat.le_trans hlevel hleast, ?_⟩
  intro logger hmem hne
  obtain ⟨own, hown, hprefix⟩ := hlogger logger hmem hne
  exact hprefix.trans (hname own hown (ne_empty_of_components hne hprefix))

/-- A filter on the name of a kept record narrows the filter that keeps it. -/
theorem narrows_of_accepts {level : Level} (hlevel : f.level ≤ level) (hr : f.accepts r = true) :
    (Filter.mk level (some r.name)).Narrows f := by
  refine ⟨hlevel, ?_⟩
  intro logger hmem hne
  exact ⟨r.name, rfl, ((f.accepts_iff r).mp hr).2 logger hmem hne⟩

/-- A filter keeps the records from its level up whose loggers have names that begin with the
components of its logger's name, or any name if it has no logger or the empty one. What is kept by a
filter on the name of a kept record is kept too, and a higher level or further components let nothing
through that was kept out. -/
theorem accepts_hierarchy (f : Filter) :
    (∀ r, f.accepts r = true ↔ f.level ≤ r.level ∧
      ∀ logger ∈ f.logger, logger ≠ "" → components logger <+: components r.name) ∧
    (∀ level q r, f.level ≤ level → f.accepts q = true →
      (Filter.mk level (some q.name)).accepts r = true → f.accepts r = true) ∧
    ∀ (g : Filter) r, g.Narrows f → f.accepts r = false → g.accepts r = false := by
  refine ⟨f.accepts_iff, ?_, ?_⟩
  · intro level q r hlevel hq hr
    exact (narrows_of_accepts hlevel hq).accepts hr
  · intro g r hnarrows hr
    rw [← Bool.not_eq_true] at hr ⊢
    exact mt hnarrows.accepts hr

/-- A dot at the end of a name opens an empty component. -/
theorem accepts_hierarchy_empty_component :
    let f : Filter := ⟨.warning, some "net"⟩
    let g : Filter := ⟨.error, some "net."⟩
    let q : Record := ⟨.epoch, .warning, "net.", "", none, []⟩
    let r : Record := ⟨.epoch, .critical, "net..http", "", none, []⟩
    let other : Record := ⟨.epoch, .critical, "network.", "", none, []⟩
    (f.level ≤ g.level ∧ f.accepts q = true ∧ g.accepts r = true ∧ g.Narrows f ∧
        f.accepts other = false) ∧
      (some "net" = f.logger ∧ "net" ≠ "" ∧ components "net" <+: components r.name) ∧
      f.accepts r = true ∧ g.accepts other = false := by
  intro f g q r other
  have hlevel : f.level ≤ g.level := by decide
  have hq : f.accepts q = true := by decide
  have hr : g.accepts r = true := by decide
  have hother : f.accepts other = false := by decide
  have hnarrows : g.Narrows f := by decide
  obtain ⟨hiff, htrans, hnarrower⟩ := accepts_hierarchy f
  have hkept : f.accepts r = true := htrans .error q r hlevel hq hr
  exact ⟨⟨hlevel, hq, hr, hnarrows, hother⟩,
    ⟨rfl, by decide, ((hiff r).mp hkept).2 "net" rfl (by decide)⟩,
    hkept, hnarrower g other hnarrows hother⟩

end Logline.Filter
