import Logline.Json.Printer
import Logline.Json.Reader
/-!
JSON text reads back. A written value is a row of tokens, and without numbers the end of each token is
told by its own characters, so the text has these tokens whatever follows it. Taken one after the
other they build the value again, as long as no more containers are open than may be.
-/
namespace Logline.Json

theorem hexWord?_control : ∀ n < 32,
    hexWord? '0' '0' (hexDigit (n / 16)) (hexDigit (n % 16)) = some n := by
  decide

/-- A character is written as a letter behind a backslash, as its number, or as it is. -/
theorem escapeChar_cases (c : Char) :
    (∃ e, e ≠ 'u' ∧ unescape? e = some c ∧ escapeChar c = ['\\', e]) ∨
      (c.toNat < 32 ∧ escapeChar c =
        ['\\', 'u', '0', '0', hexDigit (c.toNat / 16), hexDigit (c.toNat % 16)]) ∨
      (32 ≤ c.toNat ∧ c ≠ '"' ∧ c ≠ '\\' ∧ escapeChar c = [c]) := by
  unfold escapeChar
  iterate 7
    split
    · rename_i h
      subst h
      exact .inl ⟨_, by decide, rfl, rfl⟩
  split
  · rename_i h
    exact .inr (.inl ⟨h, rfl⟩)
  · rename_i hquote hbackslash _ _ _ _ _ h
    exact .inr (.inr ⟨Nat.le_of_not_lt h, hquote, hbackslash, rfl⟩)

theorem readText_letter {c e : Char} (hu : e ≠ 'u') (h : unescape? e = some c) (cs : List Char) :
    readText ('\\' :: e :: cs) = prepend c (readText cs) := by
  rw [readText]
  · rw [h]
  · intro a b d f rest heq
    exact absurd heq hu

theorem readText_control {c : Char} (h : c.toNat < 32) (cs : List Char) :
    readText ('\\' :: 'u' :: '0' :: '0' :: hexDigit (c.toNat / 16) :: hexDigit (c.toNat % 16) ::
      cs) = prepend c (readText cs) := by
  have hsurrogate : c.toNat < 0xD800 := by omega
  simp only [readText, hexWord?_control c.toNat h, hsurrogate, true_or, if_true, Char.ofNat_toNat]

theorem readText_plain {c : Char} (h : 32 ≤ c.toNat) (hquote : c ≠ '"') (hbackslash : c ≠ '\\')
    (cs : List Char) : readText (c :: cs) = prepend c (readText cs) := by
  have hallowed : ¬ (c.toNat < 32 ∨ c = '\\') := by
    rintro (hcontrol | hc)
    · omega
    · exact hbackslash hc
  rw [readText, if_neg hallowed]
  · exact hquote
  · intro a b d f rest heq
    exact absurd heq hbackslash
  · intro e rest heq
    exact absurd heq hbackslash

/-- A character is read as it was written, whatever follows. -/
theorem readText_escapeChar_append (c : Char) (cs : List Char) :
    readText (escapeChar c ++ cs) = prepend c (readText cs) := by
  obtain ⟨e, hu, he, hescape⟩ | ⟨hcontrol, hescape⟩ | ⟨hplain, hquote, hbackslash, hescape⟩ :=
    escapeChar_cases c
  · rw [hescape]
    exact readText_letter hu he cs
  · rw [hescape]
    exact readText_control hcontrol cs
  · rw [hescape]
    exact readText_plain hplain hquote hbackslash cs

theorem readText_escaped_append (cs rest : List Char) :
    readText (cs.flatMap escapeChar ++ '"' :: rest) = some (cs, rest) := by
  induction cs with
  | nil => rfl
  | cons c cs ih =>
    rw [List.flatMap_cons, List.append_assoc, readText_escapeChar_append, ih]
    rfl

mutual

/-- Tokens of a value. -/
def written : Json → List Token
  | .null => [.atom .null]
  | .bool b => [.atom (.bool b)]
  | .num n => [.atom (.num n)]
  | .str s => [.text s]
  | .arr items => .openItems :: writtenItems items
  | .obj ms => .openMembers :: writtenMembers ms

/-- Tokens of items up to the end of their container. -/
def writtenItems : List Json → List Token
  | [] => [.closeItems]
  | [v] => written v ++ [.closeItems]
  | v :: w :: vs => written v ++ .comma :: writtenItems (w :: vs)

/-- Tokens of members up to the end of their container. -/
def writtenMembers : List (String × Json) → List Token
  | [] => [.closeMembers]
  | [(k, v)] => .text k :: .colon :: (written v ++ [.closeMembers])
  | (k, v) :: m :: ms => .text k :: .colon :: (written v ++ .comma :: writtenMembers (m :: ms))

end

mutual

/-- Whether no number is in a value. -/
def numberFree : Json → Bool
  | .num _ => false
  | .arr items => numberFreeItems items
  | .obj ms => numberFreeMembers ms
  | .null | .bool _ | .str _ => true

def numberFreeItems : List Json → Bool
  | [] => true
  | v :: vs => numberFree v && numberFreeItems vs

def numberFreeMembers : List (String × Json) → Bool
  | [] => true
  | (_, v) :: ms => numberFree v && numberFreeMembers ms

end

mutual

/-- Greatest number of containers around one another. -/
def depth : Json → Nat
  | .arr items => depthItems items + 1
  | .obj ms => depthMembers ms + 1
  | .null | .bool _ | .num _ | .str _ => 0

def depthItems : List Json → Nat
  | [] => 0
  | v :: vs => max (depth v) (depthItems vs)

def depthMembers : List (String × Json) → Nat
  | [] => 0
  | (_, v) :: ms => max (depth v) (depthMembers ms)

end

theorem numberFreeMembers_iff {ms : List (String × Json)} :
    numberFreeMembers ms = true ↔ ∀ m ∈ ms, m.2.numberFree = true := by
  induction ms with
  | nil => simp [numberFreeMembers]
  | cons m ms ih => rw [numberFreeMembers, Bool.and_eq_true, ih, List.forall_mem_cons]

theorem depthMembers_le {ms : List (String × Json)} {n : Nat} :
    depthMembers ms ≤ n ↔ ∀ m ∈ ms, m.2.depth ≤ n := by
  induction ms with
  | nil => simp [depthMembers]
  | cons m ms ih => rw [depthMembers, Nat.max_le, ih, List.forall_mem_cons]

/-- Text that is certain tokens, whatever follows it. -/
def Lexes (cs : List Char) (ts : List Token) : Prop :=
  ∀ rest, tokens (cs ++ rest) = (tokens rest).map (ts ++ ·)

theorem Lexes.tokens_eq {cs : List Char} {ts : List Token} (h : Lexes cs ts) :
    tokens cs = some ts := by
  have hcs := h []
  rwa [List.append_nil, tokens, Option.map_some, List.append_nil] at hcs

theorem Lexes.append {a b : List Char} {s t : List Token} (ha : Lexes a s) (hb : Lexes b t) :
    Lexes (a ++ b) (s ++ t) := by
  intro rest
  rw [List.append_assoc, ha, hb, Option.map_map]
  exact congrArg (Option.map · _) (funext fun ts => (List.append_assoc s t ts).symm)

/-- Text that is read as one token by its first character, with all that follows left over. -/
theorem Lexes.token {c : Char} {cs : List Char} {t : Token} (hc : isBlank c = false)
    (h : ∀ rest, readToken c (cs ++ rest) = some (t, rest)) : Lexes (c :: cs) [t] := by
  intro rest
  rw [List.cons_append, tokens, if_neg (Bool.eq_false_iff.mp hc)]
  split
  · rename_i hnone
    rw [h] at hnone
    cases hnone
  · rename_i hsome
    rw [h] at hsome
    cases hsome
    rfl

/-- A bracket, a comma or a colon in front of other tokens. -/
theorem Lexes.mark {c : Char} {cs : List Char} {t : Token} {ts : List Token}
    (hc : isBlank c = false) (ht : ∀ rest, readToken c rest = some (t, rest)) (h : Lexes cs ts) :
    Lexes (c :: cs) (t :: ts) := by
  have hmark : Lexes [c] [t] := .token hc ht
  exact hmark.append h

theorem Lexes.nil : Lexes [] [] := by
  intro rest
  exact Option.map_id'.symm

theorem lexes_quote (s : String) : Lexes (quote s.toList) [.text s] := by
  refine .token (by decide) fun rest => ?_
  rw [readToken, List.append_assoc, List.singleton_append, readText_escaped_append, Option.map_some]
  exact congrArg (fun t => some (Token.text t, rest)) String.ofList_toList

/-- Blanks are no tokens. -/
theorem Lexes.behind_blanks {blanks cs : List Char} {ts : List Token}
    (hblanks : ∀ c ∈ blanks, isBlank c = true) (h : Lexes cs ts) : Lexes (blanks ++ cs) ts := by
  induction blanks with
  | nil => exact h
  | cons c blanks ih =>
    obtain ⟨hc, hblanks⟩ := List.forall_mem_cons.mp hblanks
    intro rest
    rw [List.cons_append, List.cons_append, tokens, if_pos hc]
    exact ih hblanks rest

theorem Lexes.indent {cs : List Char} {ts : List Token} (h : Lexes cs ts) (level : Nat) :
    Lexes (newline level ++ cs) ts := by
  refine h.behind_blanks fun c hc => ?_
  rcases List.mem_cons.mp hc with rfl | hc
  · rfl
  · rw [(List.mem_replicate.mp hc).2]
    rfl

mutual

/-- Without numbers no token depends on what stands behind it. -/
theorem lexes_compact : (v : Json) → v.numberFree = true → Lexes v.compact v.written
  | .null, _ => .token rfl fun _ => rfl
  | .bool true, _ => .token rfl fun _ => rfl
  | .bool false, _ => .token rfl fun _ => rfl
  | .num _, h => by cases h
  | .str s, _ => lexes_quote s
  | .arr items, h => .mark rfl (fun _ => rfl) (lexes_compactItems items h)
  | .obj ms, h => .mark rfl (fun _ => rfl) (lexes_compactMembers ms h)

theorem lexes_compactItems : (vs : List Json) → numberFreeItems vs = true →
    Lexes (compactItems vs) (writtenItems vs)
  | [], _ => .mark rfl (fun _ => rfl) .nil
  | [v], h => by
    have hv := lexes_compact v (Bool.and_eq_true_iff.mp h).1
    exact hv.append (.mark rfl (fun _ => rfl) .nil)
  | v :: w :: vs, h => by
    have hv := lexes_compact v (Bool.and_eq_true_iff.mp h).1
    have hvs := lexes_compactItems (w :: vs) (Bool.and_eq_true_iff.mp h).2
    exact hv.append (.mark rfl (fun _ => rfl) hvs)

theorem lexes_compactMembers : (ms : List (String × Json)) → numberFreeMembers ms = true →
    Lexes (compactMembers ms) (writtenMembers ms)
  | [], _ => .mark rfl (fun _ => rfl) .nil
  | [(k, v)], h => by
    have hv := lexes_compact v (Bool.and_eq_true_iff.mp h).1
    have hclose : Lexes ['\x7d'] [.closeMembers] := .mark rfl (fun _ => rfl) .nil
    exact (lexes_quote k).append (.mark rfl (fun _ => rfl) (hv.append hclose))
  | (k, v) :: m :: ms, h => by
    have hv := lexes_compact v (Bool.and_eq_true_iff.mp h).1
    have hms := lexes_compactMembers (m :: ms) (Bool.and_eq_true_iff.mp h).2
    have hmore : Lexes (',' :: compactMembers (m :: ms)) (.comma :: writtenMembers (m :: ms)) :=
      .mark rfl (fun _ => rfl) hms
    exact (lexes_quote k).append (.mark rfl (fun _ => rfl) (hv.append hmore))

end

/-- A member on its own line, in front of what follows its value. -/
theorem lexes_member (level : Nat) (k : String) {value : List Char} {ts : List Token}
    (hvalue : Lexes value ts) :
    Lexes (newline level ++ (quote k.toList ++ ':' :: ' ' :: value)) (.text k :: .colon :: ts) := by
  have hblank : Lexes ([' '] ++ value) ts :=
    hvalue.behind_blanks (List.forall_mem_singleton.mpr rfl)
  exact ((lexes_quote k).append (.mark rfl (fun _ => rfl) hblank)).indent level

mutual

/-- Indented text has the same tokens. -/
theorem lexes_indented (level : Nat) :
    (v : Json) → v.numberFree = true → Lexes (indented level v) v.written
  | .null, _ => .token rfl fun _ => rfl
  | .bool true, _ => .token rfl fun _ => rfl
  | .bool false, _ => .token rfl fun _ => rfl
  | .num _, h => by cases h
  | .str s, _ => lexes_quote s
  | .arr [], _ => .mark rfl (fun _ => rfl) (.mark rfl (fun _ => rfl) .nil)
  | .arr (v :: vs), h => .mark rfl (fun _ => rfl) (lexes_indentedItems level (v :: vs) h)
  | .obj [], _ => .mark rfl (fun _ => rfl) (.mark rfl (fun _ => rfl) .nil)
  | .obj (m :: ms), h => .mark rfl (fun _ => rfl) (lexes_indentedMembers level (m :: ms) h)

theorem lexes_indentedItems (level : Nat) : (vs : List Json) → numberFreeItems vs = true →
    Lexes (indentedItems level vs) (writtenItems vs)
  | [], _ => Lexes.indent (.mark rfl (fun _ => rfl) .nil) level
  | [v], h => by
    have hv := lexes_indented (level + 1) v (Bool.and_eq_true_iff.mp h).1
    have hclose : Lexes (newline level ++ [']']) [.closeItems] :=
      Lexes.indent (.mark rfl (fun _ => rfl) .nil) level
    rw [indentedItems, List.append_assoc, List.append_assoc]
    exact (hv.append hclose).indent (level + 1)
  | v :: w :: vs, h => by
    have hv := lexes_indented (level + 1) v (Bool.and_eq_true_iff.mp h).1
    have hvs := lexes_indentedItems level (w :: vs) (Bool.and_eq_true_iff.mp h).2
    rw [indentedItems, List.append_assoc]
    exact (hv.append (.mark rfl (fun _ => rfl) hvs)).indent (level + 1)

theorem lexes_indentedMembers (level : Nat) : (ms : List (String × Json)) →
    numberFreeMembers ms = true → Lexes (indentedMembers level ms) (writtenMembers ms)
  | [], _ => Lexes.indent (.mark rfl (fun _ => rfl) .nil) level
  | [(k, v)], h => by
    have hv := lexes_indented (level + 1) v (Bool.and_eq_true_iff.mp h).1
    have hclose : Lexes (newline level ++ ['\x7d']) [.closeMembers] :=
      Lexes.indent (.mark rfl (fun _ => rfl) .nil) level
    have hmember := lexes_member (level + 1) k (hv.append hclose)
    simpa only [indentedMembers, writtenMembers, List.append_assoc, List.cons_append] using hmember
  | (k, v) :: m :: ms, h => by
    have hv := lexes_indented (level + 1) v (Bool.and_eq_true_iff.mp h).1
    have hms := lexes_indentedMembers level (m :: ms) (Bool.and_eq_true_iff.mp h).2
    have hmore :
        Lexes (',' :: indentedMembers level (m :: ms)) (.comma :: writtenMembers (m :: ms)) :=
      .mark rfl (fun _ => rfl) hms
    have hmember := lexes_member (level + 1) k (hv.append hmore)
    simpa only [indentedMembers, writtenMembers, List.append_assoc, List.cons_append] using hmember

end

namespace Progress

/-- Progress after tokens in order. -/
def run (p : Progress) (ts : List Token) : Option Progress :=
  ts.foldlM step p

theorem run_cons (p : Progress) (t : Token) (ts : List Token) :
    p.run (t :: ts) = (p.step t).bind (·.run ts) :=
  List.foldlM_cons

theorem run_append (p : Progress) (ts us : List Token) :
    p.run (ts ++ us) = (p.run ts).bind (·.run us) :=
  List.foldlM_append

/-- Where an item or the end of its container may stand, a value begins as anywhere else. -/
theorem run_firstItem (frames : List Frame) (v : Json) (ts : List Token) :
    run ⟨.items [] :: frames, .firstItem⟩ (v.written ++ ts) =
      run ⟨.items [] :: frames, .value⟩ (v.written ++ ts) := by
  cases v <;> rfl

theorem run_firstKey (frames : List Frame) (k : String) (ts : List Token) :
    run ⟨.members [] :: frames, .firstKey⟩ (.text k :: ts) =
      run ⟨.members [] :: frames, .key⟩ (.text k :: ts) := rfl

theorem run_key (done : List (String × Json)) (frames : List Frame) (k : String)
    (ts : List Token) :
    run ⟨.members done :: frames, .key⟩ (.text k :: .colon :: ts) =
      run ⟨.member done k :: frames, .value⟩ ts := rfl

mutual

/-- The tokens of a value build the value and leave the open containers as they are. -/
theorem run_written (frames : List Frame) : (v : Json) → frames.length + v.depth ≤ maxDepth →
    run ⟨frames, .value⟩ v.written = some ⟨frames, .separator v⟩
  | .null, _ => rfl
  | .bool _, _ => rfl
  | .num _, _ => rfl
  | .str _, _ => rfl
  | .arr items, h => by
    rw [depth] at h
    have hroom : frames.length < maxDepth := by omega
    have hopen : step ⟨frames, .value⟩ .openItems = some ⟨.items [] :: frames, .firstItem⟩ :=
      if_pos hroom
    rw [written, run_cons, hopen, Option.bind_some]
    cases items with
    | nil => rfl
    | cons v vs =>
      have hfirst : run ⟨.items [] :: frames, .firstItem⟩ (writtenItems (v :: vs)) =
          run ⟨.items [] :: frames, .value⟩ (writtenItems (v :: vs)) := by
        cases vs <;> exact run_firstItem frames v _
      rw [hfirst]
      exact run_writtenItems [] frames (v :: vs) (List.cons_ne_nil v vs) (by omega)
  | .obj ms, h => by
    rw [depth] at h
    have hroom : frames.length < maxDepth := by omega
    have hopen : step ⟨frames, .value⟩ .openMembers = some ⟨.members [] :: frames, .firstKey⟩ :=
      if_pos hroom
    rw [written, run_cons, hopen, Option.bind_some]
    cases ms with
    | nil => rfl
    | cons m ms =>
      have hfirst : run ⟨.members [] :: frames, .firstKey⟩ (writtenMembers (m :: ms)) =
          run ⟨.members [] :: frames, .key⟩ (writtenMembers (m :: ms)) := by
        cases ms <;> exact run_firstKey frames m.1 _
      rw [hfirst]
      exact run_writtenMembers [] frames (m :: ms) (List.cons_ne_nil m ms) (by omega)

/-- Items behind those that are finished already. -/
theorem run_writtenItems (done : List Json) (frames : List Frame) : (vs : List Json) → vs ≠ [] →
    frames.length + 1 + depthItems vs ≤ maxDepth →
    run ⟨.items done :: frames, .value⟩ (writtenItems vs) =
      some ⟨frames, .separator (.arr (done.reverse ++ vs))⟩
  | [], h, _ => absurd rfl h
  | [v], _, h => by
    rw [depthItems] at h
    have hv := run_written (.items done :: frames) v (by rw [List.length_cons]; omega)
    rw [writtenItems, run_append, hv, Option.bind_some, ← List.reverse_cons]
    rfl
  | v :: w :: vs, _, h => by
    rw [depthItems] at h
    have hv := run_written (.items done :: frames) v (by rw [List.length_cons]; omega)
    have hvs := run_writtenItems (v :: done) frames (w :: vs) (List.cons_ne_nil w vs) (by omega)
    rw [List.reverse_cons, List.append_assoc] at hvs
    rw [writtenItems, run_append, hv, Option.bind_some]
    exact hvs

theorem run_writtenMembers (done : List (String × Json)) (frames : List Frame) :
    (ms : List (String × Json)) → ms ≠ [] → frames.length + 1 + depthMembers ms ≤ maxDepth →
    run ⟨.members done :: frames, .key⟩ (writtenMembers ms) =
      some ⟨frames, .separator (.obj (done.reverse ++ ms))⟩
  | [], h, _ => absurd rfl h
  | [(k, v)], _, h => by
    rw [depthMembers] at h
    have hv := run_written (.member done k :: frames) v (by rw [List.length_cons]; omega)
    rw [writtenMembers, run_key, run_append, hv, Option.bind_some, ← List.reverse_cons]
    rfl
  | (k, v) :: m :: ms, _, h => by
    rw [depthMembers] at h
    have hv := run_written (.member done k :: frames) v (by rw [List.length_cons]; omega)
    have hms := run_writtenMembers ((k, v) :: done) frames (m :: ms) (List.cons_ne_nil m ms)
      (by omega)
    rw [List.reverse_cons, List.append_assoc] at hms
    rw [writtenMembers, run_key, run_append, hv, Option.bind_some]
    exact hms

end

end Progress

/-- The tokens of a value that is not nested too deep read as the value. -/
theorem Lexes.read?_eq {cs : List Char} {v : Json} (h : Lexes cs v.written)
    (hdepth : v.depth ≤ maxDepth) : read? cs = some v := by
  have hrun := Progress.run_written [] v (by rwa [List.length_nil, Nat.zero_add])
  rw [Progress.run] at hrun
  rw [read?, h.tokens_eq]
  exact congrArg (·.bind Progress.finished?) hrun

theorem read?_compact {v : Json} (hnumbers : v.numberFree = true) (hdepth : v.depth ≤ maxDepth) :
    read? v.compact = some v :=
  (lexes_compact v hnumbers).read?_eq hdepth

theorem read?_pretty {v : Json} (hnumbers : v.numberFree = true) (hdepth : v.depth ≤ maxDepth) :
    read? v.pretty = some v :=
  (lexes_indented 0 v hnumbers).read?_eq hdepth

end Logline.Json
