import Logline.Proofs.Ordered
import Logline.Proofs.TimeStamp
import Logline.Record
/-!
Decoding of records. A JSON object is a record if the member that gives the level and the one that
gives the time can be read; every other member is one of the record's own fields or a further field.
-/
namespace Logline

namespace Json

/-- Members by their keys, each key once. -/
def Ascending (ms : List (String × Json)) : Prop :=
  ms.Pairwise fun a b => a.1 < b.1

theorem key_of_mem_insertSorted {key : String} {value : Json} {ms : List (String × Json)} :
    ∀ m ∈ insertSorted key value ms, m.1 = key ∨ m ∈ ms := by
  induction ms with
  | nil =>
    intro m hm
    rw [insertSorted, List.mem_singleton] at hm
    exact .inl (by rw [hm])
  | cons q ms ih =>
    intro m hm
    rw [insertSorted] at hm
    split at hm
    · obtain rfl | hm := List.mem_cons.mp hm
      · exact .inl rfl
      · exact .inr hm
    · split at hm
      · obtain rfl | hm := List.mem_cons.mp hm
        · exact .inl rfl
        · exact .inr (List.mem_cons_of_mem q hm)
      · obtain rfl | hm := List.mem_cons.mp hm
        · exact .inr List.mem_cons_self
        · exact (ih m hm).imp id (List.mem_cons_of_mem q)

theorem ascending_insertSorted (key : String) (value : Json) {ms : List (String × Json)}
    (h : Ascending ms) : Ascending (insertSorted key value ms) := by
  induction ms with
  | nil => exact List.pairwise_singleton _ _
  | cons q ms ih =>
    obtain ⟨hq, hms⟩ := List.pairwise_cons.mp h
    rw [insertSorted]
    split
    · rename_i hlt
      refine List.pairwise_cons.mpr ⟨fun m hm => ?_, h⟩
      obtain rfl | hm := List.mem_cons.mp hm
      · exact hlt
      · exact Std.lt_trans hlt (hq m hm)
    · rename_i hlt
      split
      · rename_i heq
        subst heq
        exact List.pairwise_cons.mpr ⟨hq, hms⟩
      · rename_i hne
        refine List.pairwise_cons.mpr ⟨fun m hm => ?_, ih hms⟩
        obtain hkey | hm := key_of_mem_insertSorted m hm
        · rw [hkey]
          exact Std.lt_of_le_of_ne (Std.not_lt.mp hlt) (Ne.symm hne)
        · exact hq m hm

theorem ascending_sortMembers (ms : List (String × Json)) : Ascending (sortMembers ms) :=
  List.foldlRecOn ms _ List.Pairwise.nil fun _ hsorted m _ => ascending_insertSorted m.1 m.2 hsorted

theorem ascending_of_sorted_eq_obj {v : Json} {ms : List (String × Json)}
    (h : v.sorted = .obj ms) : Ascending ms := by
  cases v <;> cases h
  exact ascending_sortMembers _

end Json

namespace Level

theorem ofNumber?_number (l : Level) : ofNumber? l.number = some l := by
  cases l <;> rfl

theorem number_of_ofNumber? {n : Nat} {l : Level} (h : ofNumber? n = some l) : l.number = n := by
  have hfound := List.find?_some h
  exact eq_of_beq hfound

end Level

namespace Record

variable {ms : List (String × Json)}

/-- Level that a member stands for: its name, or its number as an integer. Without a member it is
the one of an information. -/
inductive ReadsLevel : Option Json → Level → Prop
  | absent : ReadsLevel none .info
  | name {s : String} {l : Level} : Level.ofName? s = some l → ReadsLevel (some (.str s)) l
  | number (l : Level) : ReadsLevel (some (.num (.int l.number))) l

/-- Time that a member stands for, on the clock of a place: a time stamp, or seconds whose
thousandths, rounded to whole ones, are in the range of dates. Without a member it is the present. -/
inductive ReadsTime (zone : Time.Zone) (now : Time.LocalTime) :
    Option Json → Time.LocalTime → Prop
  | absent : ReadsTime zone now none now
  | stamp {s : String} (stamp : Time.Stamp) : s.toList = stamp.text →
      ReadsTime zone now (some (.str s)) (stamp.instant.inZone zone)
  | seconds {n : Number} {millis : Int} :
      (n.toBinary64.mul (.ofNat 1000)).roundAway = some millis →
      Time.Instant.minMillis ≤ millis → millis ≤ Time.Instant.maxMillis →
      ReadsTime zone now (some (.num n)) ((Time.Instant.ofMillis millis).inZone zone)

/-- First present of the members that may give the level; null is present. -/
def levelMember? (ms : List (String × Json)) : Option Json :=
  ms.lookup "levelname" <|> ms.lookup "level" <|> ms.lookup "levelno"

/-- Keys whose members go into the record's own fields. Of the keys for the level only the first
present is one, and the second key for the message is one only if the first gives no text. -/
inductive Consumed (ms : List (String × Json)) : String → Prop
  | levelname {v : Json} : ms.lookup "levelname" = some v → Consumed ms "levelname"
  | level {v : Json} : ms.lookup "levelname" = none → ms.lookup "level" = some v →
      Consumed ms "level"
  | levelno {v : Json} : ms.lookup "levelname" = none → ms.lookup "level" = none →
      ms.lookup "levelno" = some v → Consumed ms "levelno"
  | created : Consumed ms "created"
  | name : Consumed ms "name"
  | message : Consumed ms "message"
  | msg : ms.lookup "message" = none ∨ ms.lookup "message" = some .null → Consumed ms "msg"
  | error : Consumed ms "error"

theorem elim_eq_ok {α : Type} {o : Option α} {e : Error} {a : α} :
    o.elim (.error e) .ok = (.ok a : Except Error α) ↔ o = some a := by
  cases o <;> simp

theorem readLevel_eq_ok {v : Json} {l : Level} : readLevel v = .ok l ↔ ReadsLevel (some v) l := by
  constructor
  · intro h
    unfold readLevel at h
    split at h
    · exact .name (elim_eq_ok.mp h)
    · have hnumber := elim_eq_ok.mp h
      split at hnumber
      · rw [← Level.number_of_ofNumber? hnumber]
        exact .number l
      · cases hnumber
    · cases h
  · intro h
    cases h with
    | name hname => exact elim_eq_ok.mpr hname
    | number => exact elim_eq_ok.mpr (Level.ofNumber?_number l)

/-- A number is a time exactly if its thousandths are in the range of dates. -/
theorem ofSeconds?_eq_some {x : Binary64} {t : Time.Instant} :
    Time.Instant.ofSeconds? x = some t ↔ ∃ millis,
      (x.mul (.ofNat 1000)).roundAway = some millis ∧
      (Time.Instant.minMillis ≤ millis ∧ millis ≤ Time.Instant.maxMillis) ∧
      .ofMillis millis = t := by
  simp only [Time.Instant.ofSeconds?, Option.bind_eq_some_iff, Option.ite_none_right_eq_some,
    Option.some.injEq]

theorem elim_inZone_eq_ok {zone : Time.Zone} {created : Option Time.Instant} {e : Error}
    {t : Time.LocalTime} :
    created.elim (.error e) (fun u => .ok (u.inZone zone)) = (.ok t : Except Error Time.LocalTime) ↔
      ∃ u, created = some u ∧ u.inZone zone = t := by
  cases created <;> simp

theorem readCreated_eq_ok {zone : Time.Zone} {now t : Time.LocalTime} {v : Json} :
    readCreated zone v = .ok t ↔ ReadsTime zone now (some v) t := by
  constructor
  · intro h
    obtain ⟨u, hcreated, rfl⟩ := elim_inZone_eq_ok.mp h
    split at hcreated
    · obtain ⟨stamp, rfl, hstamp⟩ := Time.Instant.ofRfc3339?_eq_some_iff.mp hcreated
      exact .stamp stamp hstamp
    · obtain ⟨millis, hmillis, ⟨hmin, hmax⟩, rfl⟩ := ofSeconds?_eq_some.mp hcreated
      exact .seconds hmillis hmin hmax
    · cases hcreated
  · intro h
    apply elim_inZone_eq_ok.mpr
    cases h with
    | stamp stamp hstamp =>
      exact ⟨_, Time.Instant.ofRfc3339?_eq_some_iff.mpr ⟨stamp, rfl, hstamp⟩, rfl⟩
    | seconds hmillis hmin hmax =>
      exact ⟨_, ofSeconds?_eq_some.mpr ⟨_, hmillis, ⟨hmin, hmax⟩, rfl⟩, rfl⟩

theorem levelKey?_eq : levelKey? ms =
    if (ms.lookup "levelname").isSome then some "levelname"
    else if (ms.lookup "level").isSome then some "level"
    else if (ms.lookup "levelno").isSome then some "levelno" else none := by
  simp only [levelKey?, levelKeys, List.find?_cons, List.find?_nil]
  grind

theorem levelMember?_eq : levelMember? ms = (levelKey? ms).bind (List.lookup · ms) := by
  rw [levelKey?_eq, levelMember?]
  cases hname : ms.lookup "levelname" <;> cases hlevel : ms.lookup "level" <;>
    cases hno : ms.lookup "levelno" <;> simp [*]

theorem levelKey?_eq_some {key : String} : levelKey? ms = some key ↔
    (key = "levelname" ∧ ∃ v, ms.lookup "levelname" = some v) ∨
    (key = "level" ∧ ms.lookup "levelname" = none ∧ ∃ v, ms.lookup "level" = some v) ∨
    (key = "levelno" ∧ ms.lookup "levelname" = none ∧ ms.lookup "level" = none ∧
      ∃ v, ms.lookup "levelno" = some v) := by
  rw [levelKey?_eq]
  cases ms.lookup "levelname" <;> cases ms.lookup "level" <;> cases ms.lookup "levelno" <;>
    simp [eq_comm]

theorem text?_eq_none {key : String} :
    text? ms key = none ↔ ms.lookup key = none ∨ ms.lookup key = some .null := by
  unfold text?
  cases ms.lookup key with
  | none => simp
  | some v => cases v <;> simp

theorem mem_ownKeys {key : String} : key ∈ ownKeys ms ↔ Consumed ms key := by
  have hmsg : key ∈ (if (text? ms "message").isSome then [] else ["msg"]) ↔
      key = "msg" ∧ (ms.lookup "message" = none ∨ ms.lookup "message" = some .null) := by
    rw [← text?_eq_none]
    cases text? ms "message" <;> simp
  rw [ownKeys, List.mem_append, List.mem_append, Option.mem_toList, hmsg, levelKey?_eq_some]
  constructor
  · rintro (((⟨rfl, v, h⟩ | ⟨rfl, hname, v, h⟩ | ⟨rfl, hname, hlevel, v, h⟩) | hkey) | ⟨rfl, h⟩)
    · exact .levelname h
    · exact .level hname h
    · exact .levelno hname hlevel h
    · simp only [List.mem_cons, List.not_mem_nil, or_false] at hkey
      obtain rfl | rfl | rfl | rfl := hkey
      · exact .created
      · exact .name
      · exact .message
      · exact .error
    · exact .msg h
  · intro h
    cases h with
    | levelname h => exact .inl (.inl (.inl ⟨rfl, _, h⟩))
    | level hname h => exact .inl (.inl (.inr (.inl ⟨rfl, hname, _, h⟩)))
    | levelno hname hlevel h => exact .inl (.inl (.inr (.inr ⟨rfl, hname, hlevel, _, h⟩)))
    | msg h => exact .inr ⟨rfl, h⟩
    | created => exact .inl (.inr (by simp))
    | name => exact .inl (.inr (by simp))
    | message => exact .inl (.inr (by simp))
    | error => exact .inl (.inr (by simp))

instance (key : String) : Decidable (Consumed ms key) :=
  decidable_of_iff (key ∈ ownKeys ms) mem_ownKeys

theorem elim_readLevel_eq_ok {m : Option Json} {l : Level} :
    m.elim (.ok .info) readLevel = .ok l ↔ ReadsLevel m l := by
  cases m with
  | none =>
    constructor
    · intro h
      cases h
      exact .absent
    · intro h
      cases h
      rfl
  | some v => exact readLevel_eq_ok

theorem elim_readCreated_eq_ok {zone : Time.Zone} {now t : Time.LocalTime} {m : Option Json} :
    m.elim (.ok now) (readCreated zone) = .ok t ↔ ReadsTime zone now m t := by
  cases m with
  | none =>
    constructor
    · intro h
      cases h
      exact .absent
    · intro h
      cases h
      rfl
  | some v => exact readCreated_eq_ok

theorem without_ownKeys : without (ownKeys ms) ms = ms.filter (fun m => ¬ Consumed ms m.1) := by
  refine List.filter_congr fun m _ => ?_
  simp only [List.contains_eq_mem, mem_ownKeys, decide_not]

theorem ofMembers_eq (zone : Time.Zone) (now : Time.LocalTime) (ms : List (String × Json)) :
    ofMembers zone now ms = ((levelMember? ms).elim (.ok .info) readLevel).bind fun level =>
      ((ms.lookup "created").elim (.ok now) (readCreated zone)).bind fun created => .ok {
        created
        level
        name := (text? ms "name").getD ""
        message := (text? ms "message" <|> text? ms "msg").getD ""
        error := (ms.lookup "error").filter (· ≠ .null)
        extra := ms.filter (fun m => ¬ Consumed ms m.1) } := by
  rw [levelMember?_eq, ← without_ownKeys, ofMembers]
  -- Both sides are the same program once it is known which of the two members are there.
  cases (levelKey? ms).bind (List.lookup · ms) <;> cases ms.lookup "created" <;> rfl

/-- An object is a record exactly if its level and its time can be read. -/
theorem ofMembers_eq_ok {zone : Time.Zone} {now : Time.LocalTime} {r : Record} :
    ofMembers zone now ms = .ok r ↔ ReadsLevel (levelMember? ms) r.level ∧
    ReadsTime zone now (ms.lookup "created") r.created ∧
    r.name = (text? ms "name").getD "" ∧
    r.message = (text? ms "message" <|> text? ms "msg").getD "" ∧
    r.error = (ms.lookup "error").filter (· ≠ .null) ∧
    r.extra = ms.filter (fun m => ¬ Consumed ms m.1) := by
  rw [ofMembers_eq, ← elim_readLevel_eq_ok, ← elim_readCreated_eq_ok]
  cases (levelMember? ms).elim (.ok .info) readLevel with
  | error e => simp [Except.bind]
  | ok level =>
    cases (ms.lookup "created").elim (.ok now) (readCreated zone) with
    | error e => simp [Except.bind]
    | ok created =>
      constructor
      · intro h
        cases h
        exact ⟨rfl, rfl, rfl, rfl, rfl, rfl⟩
      · rintro ⟨hlevel, hcreated, hname, hmessage, herror, hextra⟩
        cases hlevel
        cases hcreated
        simp only [Except.bind, ← hname, ← hmessage, ← herror, ← hextra]

theorem ofJson_eq_ok {zone : Time.Zone} {now : Time.LocalTime} {v : Json} {r : Record} :
    ofJson zone now v = .ok r ↔ ∃ ms, v.sorted = .obj ms ∧ ofMembers zone now ms = .ok r := by
  unfold ofJson
  split
  · rename_i ms hv
    simp [hv]
  · rename_i hv
    constructor
    · intro h
      cases h
    · rintro ⟨ms, hobj, -⟩
      exact absurd hobj (hv ms)

section Members

variable {zone : Time.Zone} {now : Time.LocalTime} {r : Record}

end Members

/-- The further fields are in the order of their keys, and each key is there once. -/
theorem ascending_extra {zone : Time.Zone} {now : Time.LocalTime} {v : Json} {r : Record}
    (h : ofJson zone now v = .ok r) : Json.Ascending r.extra := by
  obtain ⟨ms, hv, hr⟩ := ofJson_eq_ok.mp h
  obtain ⟨-, -, -, -, -, hextra⟩ := ofMembers_eq_ok.mp hr
  rw [hextra]
  exact (Json.ascending_of_sorted_eq_obj hv).filter _

example : (ofJson .utc .epoch (.obj [("msg", .str "full"), ("message", .null),
      ("level", .str "info"), ("levelname", .str " warn "), ("levelno", .null),
      ("error", .null)])).toOption =
    some ⟨.epoch, .warning, "", "full", none, [("level", .str "info"), ("levelno", .null)]⟩ := by
  decide +kernel

end Record

end Logline
