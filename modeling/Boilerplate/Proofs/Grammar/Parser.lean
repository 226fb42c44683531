/-
# What readers read

A reader behind another one succeeds if both do (`run_bind_eq_ok_iff`), and tokens are read if
nothing of them is left (`all_eq_ok_iff`).  A repeated reader reads something if it does not give
nothing at once (`many_ne_nil`), so that there is an entry where separated entries do not stop at
once (`separated_ne_nil`).
-/

import Boilerplate.Grammar
import Boilerplate.Proofs.Except

namespace Boilerplate
namespace Parser

variable {α β : Type}

/-- Two readers read one behind the other. -/
theorem run_bind_eq_ok_iff {p : Parser α} {f : α → Parser β} {inp : Input} {r : β × Input} :
    (p >>= f) inp = .ok r ↔ ∃ a rest, p inp = .ok (a, rest) ∧ f a rest = .ok r :=
  (bind_eq_ok_iff (x := p inp)).trans Prod.exists

/-- The reader that reads nothing. -/
theorem run_pure_eq_ok_iff {a : α} {inp : Input} {r : α × Input} :
    (pure a : Parser α) inp = .ok r ↔ r = (a, inp) :=
  ⟨fun h => (Except.ok.inj h).symm, fun h => h ▸ rfl⟩

/-- The reader that looks ahead always succeeds and reads nothing. -/
theorem run_sees_eq_ok_iff {test : Tokens → Bool} {inp : Input} {r : Bool × Input} :
    sees test inp = .ok r ↔ r = (test inp.rest, inp) :=
  ⟨fun h => (Except.ok.inj h).symm, fun h => h ▸ rfl⟩

/-- **All of some tokens are read** if a reader leaves none of them, inside of groups or at the
end. -/
theorem all_eq_ok_iff {p : Parser α} {ts : Tokens} {finish : Span} {a : α} :
    all p ts finish = .ok a ↔
      ∃ inp, p { rest := ts, finish } = .ok (a, inp) ∧ inp.leftover = none ∧ inp.rest = [] := by
  rw [all, bind_eq_ok_iff]
  constructor
  · rintro ⟨⟨b, inp⟩, hrun, hend⟩
    dsimp only at hend
    split at hend
    · cases hend
    · cases hend
    · rename_i hleftover hrest
      obtain rfl := Except.ok.inj hend
      exact ⟨inp, hrun, hleftover, hrest⟩
  · rintro ⟨inp, hrun, hleftover, hrest⟩
    refine ⟨(a, inp), hrun, ?_⟩
    dsimp only
    rw [hleftover, hrest]

/-- A reader that gives something is repeated. -/
theorem many_ne_nil {p : Parser (Option α)} {inp rest : Input} {as : List α}
    (h : ∀ rest, p inp ≠ .ok (none, rest)) (hrun : many p inp = .ok (as, rest)) : as ≠ [] := by
  obtain ⟨a?, behind, ha, hmore⟩ := run_bind_eq_ok_iff.1 hrun
  cases a? with
  | none => exact absurd ha (h behind)
  | some a =>
    obtain ⟨more, _, -, hpure⟩ := run_bind_eq_ok_iff.1 hmore
    cases run_pure_eq_ok_iff.1 hpure
    exact List.cons_ne_nil a more

/-- **Where separated entries do not stop at once** there is one. -/
theorem separated_ne_nil {stop : Tokens → Bool} {sep : String} {p : Parser α} {inp rest : Input}
    {as : List (α × Tokens)} (h : stop inp.rest = false)
    (hrun : separated stop sep p inp = .ok (as, rest)) : as ≠ [] := by
  refine many_ne_nil (fun rest hnone => ?_) hrun
  obtain ⟨stops, _, hsees, hnone⟩ := run_bind_eq_ok_iff.1 hnone
  cases run_sees_eq_ok_iff.1 hsees
  rw [h] at hnone
  obtain ⟨a, behind, -, hnone⟩ := run_bind_eq_ok_iff.1 hnone
  obtain ⟨stops, _, -, hnone⟩ := run_bind_eq_ok_iff.1 hnone
  cases stops with
  | true => cases run_pure_eq_ok_iff.1 hnone
  | false =>
    obtain ⟨_, _, -, hnone⟩ := run_bind_eq_ok_iff.1 hnone
    cases run_pure_eq_ok_iff.1 hnone

/-! ### Runs that are known -/

variable {n : Nat} {p : Parser (Option α)} {q : Parser α} {a : α} {as : List α}
  {stop : Tokens → Bool} {sep : String} {s : Tokens} {inp next rest : Input}

/-- A repeated reader goes on behind what it read. -/
theorem upTo_succ_of_some (h : p inp = .ok (some a, next))
    (hmore : upTo n p next = .ok (as, rest)) : upTo (n + 1) p inp = .ok (a :: as, rest) :=
  run_bind_eq_ok_iff.2 ⟨_, _, h, run_bind_eq_ok_iff.2 ⟨_, _, hmore, rfl⟩⟩

/-- A repeated reader stops where it gives nothing. -/
theorem upTo_succ_of_none (h : p inp = .ok (none, rest)) : upTo (n + 1) p inp = .ok ([], rest) :=
  run_bind_eq_ok_iff.2 ⟨_, _, h, rfl⟩

/-- **Pieces are read** one behind the other, as long as the next tokens call for one more. -/
theorem whileSees_of_pieces {test : Tokens → Bool} {pieces : List β} {tokens : β → Tokens}
    {value : β → α} (hsees : ∀ b rest, test (tokens b ++ rest) = true)
    (hread : ∀ b rest, q { inp with rest := tokens b ++ rest } = .ok (value b, { inp with rest }))
    (hpos : ∀ b, 0 < (tokens b).length) (hstop : test inp.rest = false) :
    whileSees test q { inp with rest := pieces.flatMap tokens ++ inp.rest } =
      .ok (pieces.map value, inp) := by
  -- Each piece takes a token at least, so that as many steps are allowed as there are pieces.
  have hsteps : ∀ n, pieces.length < n →
      upTo n (do if ← sees test then return some (← q) else return none)
        { inp with rest := pieces.flatMap tokens ++ inp.rest } = .ok (pieces.map value, inp) := by
    induction pieces with
    | nil =>
      rintro (_ | n) hn
      · cases hn
      refine upTo_succ_of_none (run_bind_eq_ok_iff.2 ⟨_, _, rfl, ?_⟩)
      rw [List.flatMap_nil, List.nil_append, hstop]
      rfl
    | cons b pieces ih =>
      rintro (_ | n) hn
      · cases hn
      rw [List.flatMap_cons, List.append_assoc]
      refine upTo_succ_of_some (run_bind_eq_ok_iff.2 ⟨_, _, rfl, ?_⟩) (ih n (by simpa using hn))
      rw [hsees]
      exact run_bind_eq_ok_iff.2 ⟨_, _, hread b _, rfl⟩
  refine hsteps _ (Nat.lt_succ_of_le (Nat.le_trans ?_ (Nat.le_of_eq List.length_append.symm)))
  clear hsteps
  induction pieces with
  | nil => exact Nat.zero_le _
  | cons b pieces ih =>
    have := hpos b
    rw [List.flatMap_cons, List.length_cons, List.length_append]
    omega

/-- One of several entries with separators between them, if there is one more. -/
def separatedEntry (stop : Tokens → Bool) (sep : String) (q : Parser α) :
    Parser (Option (α × Tokens)) := do
  if ← sees stop then return none
  let a ← q
  if ← sees stop then return some (a, [])
  return some (a, ← op sep)

/-- What is read with separators, as entries one behind the other. -/
theorem separated_eq_many : separated stop sep q = many (separatedEntry stop sep q) := rfl

/-- The last entry has no separator behind it. -/
theorem separatedEntry_of_last (h : stop inp.rest = false) (hq : q inp = .ok (a, next))
    (hstop : stop next.rest = true) : separatedEntry stop sep q inp = .ok (some (a, []), next) := by
  refine run_bind_eq_ok_iff.2 ⟨_, _, rfl, ?_⟩
  rw [h]
  refine run_bind_eq_ok_iff.2 ⟨_, _, hq, run_bind_eq_ok_iff.2 ⟨_, _, rfl, ?_⟩⟩
  rw [hstop]
  rfl

/-- An entry with the separator behind it. -/
theorem separatedEntry_of_separator (h : stop inp.rest = false) (hq : q inp = .ok (a, next))
    (hstop : stop next.rest = false) (hsep : op sep next = .ok (s, rest)) :
    separatedEntry stop sep q inp = .ok (some (a, s), rest) := by
  refine run_bind_eq_ok_iff.2 ⟨_, _, rfl, ?_⟩
  rw [h]
  refine run_bind_eq_ok_iff.2 ⟨_, _, hq, run_bind_eq_ok_iff.2 ⟨_, _, rfl, ?_⟩⟩
  rw [hstop]
  exact run_bind_eq_ok_iff.2 ⟨_, _, hsep, rfl⟩

end Parser
end Boilerplate
