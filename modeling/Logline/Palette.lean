import Logline.Ordered
import Logline.Text
/-!
Colors for values. In every namespace the first values get the colors of a fixed palette in order,
later ones random colors outside the palette. A value keeps its color.
-/
namespace Logline

namespace Palette

def colors : List String :=
  ["#37455c", "#1da1f2", "#cb2027", "#ff5700", "#848484", "#118C4E", "#FF9009", "#9A2747",
   "#85A40C", "#265273", "#BF8E40", "#CC6666", "#000000", "#645188"]

/-- Whether a color is one of the palette's, whatever the case of its letters. -/
def isTaken (color : String) : Bool :=
  colors.any fun c => Text.lowerAscii c.toList == Text.lowerAscii color.toList

/-- Hexadecimal notation of a color code. -/
def hexadecimal (code : Nat) : String :=
  String.ofList ('#' :: (List.range 6).reverse.map fun i => Nat.digitChar ((code >>> (4 * i)) % 16))

end Palette

/-- Color codes drawn at random one after the other. However many were drawn, some later one is no
color of the palette. -/
structure Draws where
  code : Nat → Fin 0x1000000
  fair : ∀ n, ∃ m, n ≤ m ∧ Palette.isTaken (Palette.hexadecimal (code m)) = false

namespace Draws

/-- Color of a draw. -/
def color (d : Draws) (n : Nat) : String :=
  Palette.hexadecimal (d.code n)

/-- Going on from a draw of a palette color comes to an end. -/
theorem wellFounded_taken (d : Draws) :
    WellFounded fun next n => next = n + 1 ∧ Palette.isTaken (d.color n) = true := by
  refine ⟨fun n => ?_⟩
  obtain ⟨m, hle, hfree⟩ := d.fair n
  -- The induction is on the distance to a later draw that is no palette color.
  induction hdistance : m - n generalizing n with
  | zero =>
    obtain rfl : n = m := by omega
    refine ⟨n, ?_⟩
    rintro _ ⟨-, htaken⟩
    rw [color, hfree] at htaken
    cases htaken
  | succ k ih =>
    refine ⟨n, ?_⟩
    rintro _ ⟨rfl, -⟩
    exact ih (n + 1) (by omega) (by omega)

/-- Color of the first draw from the `n`-th on that is no palette color, and the number of the draw
after it. -/
def next (d : Draws) (n : Nat) : String × Nat :=
  if Palette.isTaken (d.color n) then d.next (n + 1) else (d.color n, n + 1)
termination_by d.wellFounded_taken.wrap n

/-- Step between the codes of two draws. -/
def step : Nat := 0x9e3779

/-- Steps around all codes lead from any code to any other one, since the step is odd. -/
theorem exists_step (start code : Nat) (h : code < 0x1000000) :
    ∃ k, (start + step * k) % 0x1000000 = code := by
  -- `0xb382c9` is the inverse of the step.
  refine ⟨(0x1000000 + code - start % 0x1000000) * 0xb382c9 % 0x1000000, ?_⟩
  rw [step]
  omega

/-- Draws that go around all codes in steps. -/
def seeded (seed : Nat) : Draws where
  code n := Fin.ofNat _ (seed + step * n)
  fair n := by
    obtain ⟨k, hwhite⟩ := exists_step (seed + step * n) 0xffffff (by decide)
    refine ⟨n + k, Nat.le_add_right n k, ?_⟩
    have hcode : seed + step * (n + k) = seed + step * n + step * k := by
      rw [Nat.mul_add, Nat.add_assoc]
    rw [Fin.ofNat, hcode]
    dsimp only
    rw [hwhite]
    decide +kernel

end Draws

/-- Number of palette colors used in each namespace, and the draws of random colors. -/
structure Allocator where
  counters : List (String × Nat)
  draws : Draws
  /-- Number of the next draw. -/
  draw : Nat

namespace Allocator

/-- Allocator that has given no color yet. -/
def empty (draws : Draws) : Allocator :=
  ⟨[], draws, 0⟩

/-- Palette colors that a namespace has used. -/
def used (a : Allocator) (space : String) : Nat :=
  (a.counters.lookup space).getD 0

/-- Next color of a namespace. -/
def allocate (a : Allocator) (space : String) : String × Allocator :=
  match Palette.colors[a.used space]? with
  | some color => (color, { a with counters := Ordered.put space (a.used space + 1) a.counters })
  | none =>
    let (color, draw) := a.draws.next a.draw
    (color, { a with draw })

end Allocator

/-- Colors by namespace and value, in the order in which they were given. -/
structure ColorStore where
  assigned : List ((String × String) × String)
  allocator : Allocator

namespace ColorStore

/-- Store that has given no color yet. -/
def empty (draws : Draws) : ColorStore :=
  ⟨[], .empty draws⟩

def size (s : ColorStore) : Nat :=
  s.assigned.length

def isEmpty (s : ColorStore) : Bool :=
  s.assigned.isEmpty

/-- Color of a value, given at its first request. -/
def colorFor (s : ColorStore) (space value : String) : String × ColorStore :=
  match s.assigned.lookup (space, value) with
  | some color => (color, s)
  | none =>
    let (color, allocator) := s.allocator.allocate space
    (color, ⟨s.assigned ++ [((space, value), color)], allocator⟩)

end ColorStore

end Logline
