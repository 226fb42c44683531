/-
# How the arguments of a field are written

An argument is a path, and behind it nothing, a value, or a group in brackets
(`WrittenArg`); arguments stand with commas between them (`ArgsWritten`).  Their reader takes a
path, then what belongs to its name, and wants a comma or the end.  So each argument is read by
itself, up to where it ends (`WrittenArg.behind_eq`), and the arguments of an attribute by induction
on their list (`ArgsWritten.readAll_eq`).

Behind an unknown name a value or parentheses are passed over, but no other group: there the reader
finds no comma, and what follows is lost (`WrittenArg.sticks`).
-/

import Boilerplate.FieldSettings
import Boilerplate.Proofs.Grammar.Parser

namespace Boilerplate

open Boilerplate.Parser

/-! ### Paths -/

/-- Two colons in the text. -/
structure Colons where
  first : Span := .none
  spacing : Spacing := .alone
  second : Span := .none

namespace Colons

/-- The two colons, the first joint to the second. -/
def tokens (c : Colons) : Tokens := [.punct ':' .joint c.first, .punct ':' c.spacing c.second]

/-- The colons in printed form. -/
def printed (c : Colons) : Tokens := [.punct ':' .joint c.first, .punct ':' .alone c.second]

end Colons

/-- A path of names in the text. -/
structure WrittenPath where
  root : Option Colons := none
  first : Ident
  more : List (Colons × Ident) := []

namespace WrittenPath

/-- The path as it is written. -/
def tokens (p : WrittenPath) : Tokens :=
  p.root.toList.flatMap Colons.tokens ++ .ident p.first ::
    p.more.flatMap fun s => s.1.tokens ++ [.ident s.2]

/-- The path that is read. -/
def path (p : WrittenPath) : Path where
  rooted := p.root.isSome
  segments := { name := p.first } :: p.more.map fun s => { name := s.2 }
  tokens := p.root.toList.flatMap Colons.printed ++ [.ident p.first] ++
    p.more.flatMap fun s => s.1.printed ++ [.ident s.2]

/-- **A path is read** up to where no colons follow. -/
theorem path_eq (p : WrittenPath) (inp : Input) (h : Look.op "::" inp.rest = false) :
    FieldArg.path { inp with rest := p.tokens ++ inp.rest } = .ok (p.path, inp) := by
  have hmore : whileSees (Look.op "::") (do return (← op "::", ← anyIdent))
      { inp with rest := (p.more.flatMap fun s => s.1.tokens ++ [.ident s.2]) ++ inp.rest } =
      .ok (p.more.map fun s => (s.1.printed, s.2), inp) :=
    whileSees_of_pieces (fun _ _ => rfl) (fun _ _ => rfl) (fun _ => Nat.succ_pos _) h
  obtain ⟨root, first, more⟩ := p
  have hroot : op? "::" { inp with rest := (WrittenPath.mk root first more).tokens ++ inp.rest } =
      .ok (root.toList.flatMap Colons.printed, { inp with
        rest := .ident first ::
          (more.flatMap fun s => s.1.tokens ++ [.ident s.2]) ++ inp.rest }) := by
    cases root <;> rfl
  refine run_bind_eq_ok_iff.2 ⟨_, _, hroot, run_bind_eq_ok_iff.2 ⟨_, _, rfl, ?_⟩⟩
  refine run_bind_eq_ok_iff.2 ⟨first, _, rfl, run_bind_eq_ok_iff.2 ⟨_, _, hmore, ?_⟩⟩
  have hrooted : (!(root.toList.flatMap Colons.printed).isEmpty) = root.isSome := by
    cases root <;> rfl
  rw [hrooted, List.map_map, List.flatMap_map]
  rfl

end WrittenPath

/-! ### Values -/

/-- Whether an argument ends before these tokens: at a comma, or since there are none. -/
def EndsArgument (ts : Tokens) : Prop := ts = [] ∨ Look.op "," ts = true

/-- Whether the tokens are this expression wherever an argument ends behind them, for any grammar
that is deep enough for them. -/
def Expr.IsWritten (e : Expr) (ts : Tokens) : Prop :=
  ∀ n, 8 * (Tokens.size ts + 2) ≤ n → ∀ inp : Input, EndsArgument inp.rest →
    (Nat.repeat Grammar.step n Grammar.exhausted).expr true { inp with rest := ts ++ inp.rest } =
      .ok (e, inp)

/-- Where an argument ends, nothing that belongs to it follows. -/
theorem EndsArgument.not_sees {ts : Tokens} (h : EndsArgument ts) :
    Look.op "::" ts = false ∧ Look.op "=" ts = false ∧ Look.paren ts = false := by
  rcases h with rfl | h
  · exact ⟨rfl, rfl, rfl⟩
  · match ts with
    | .punct c spacing span :: rest =>
      obtain rfl : ',' = c := by simpa [Look.op, Look.chars] using h
      cases spacing <;> exact ⟨rfl, rfl, rfl⟩
    | [] => exact ⟨rfl, rfl, rfl⟩

/-- A literal is an expression wherever an argument ends behind it. -/
theorem Expr.isWritten_literal (l : Literal) :
    Expr.IsWritten ⟨.literal l, [.literal l]⟩ [.literal l] := by
  intro n hn inp ends
  have hdeep : 24 ≤ n := hn
  obtain ⟨m, rfl⟩ : ∃ m, n = m + 24 := ⟨n - 24, (Nat.sub_add_cancel hdeep).symm⟩
  obtain ⟨rest, finish, leftover⟩ := inp
  rcases ends with h | h
  · cases h
    rfl
  · match rest with
    | .punct c spacing span :: rest =>
      obtain rfl : ',' = c := by simpa [Look.op, Look.chars] using h
      cases spacing <;> rfl

/-! ### Arguments -/

/-- What stands behind the path of an argument. -/
inductive ArgTail
  | nothing
  | value (spacing : Spacing) (equals : Span) (ts : Tokens) (e : Expr)
  | group (d : Delimiter) (body : Tokens) (opening closing : Span)

/-- What is written behind the path. -/
def ArgTail.tokens : ArgTail → Tokens
  | nothing => []
  | value spacing equals ts _ => .punct '=' spacing equals :: ts
  | group d body o c => [.group d body o c]

/-- An argument in the text. -/
structure WrittenArg where
  path : WrittenPath
  tail : ArgTail := .nothing

namespace WrittenArg

/-- The argument as it is written. -/
def tokens (x : WrittenArg) : Tokens := x.path.tokens ++ x.tail.tokens

/-- Whether the path of the argument is this name. -/
def isNamed (x : WrittenArg) (w : String) : Bool := x.path.path.isIdent w

/-- Whether the argument has one of the names that say something of a field. -/
def isKnown (x : WrittenArg) : Bool := x.isNamed "skip" || x.isNamed "default" || x.isNamed "legacy"

/-- Whether the argument has what belongs to its name behind it; behind an unknown one there may
stand anything. -/
def IsWellFormed (x : WrittenArg) : Prop :=
  match x.tail with
  | .nothing => x.isNamed "default" = false ∧ x.isNamed "legacy" = false
  | .value _ _ ts e => x.isNamed "skip" = false ∧ e.IsWritten ts
  | .group .. => x.isKnown = false

/-- Whether the argument has a group behind it that is not passed over. -/
def sticks (x : WrittenArg) : Bool :=
  match x.tail with
  | .group .bracket .. | .group .brace .. => true
  | _ => false

/-- What the argument is read as. -/
def arg (x : WrittenArg) : FieldArg :=
  let unknown := .unknown ((x.path.path.ident?.map Ident.text).getD "?") x.path.path.tokens.span
  if x.isNamed "skip" then .skip
  else match x.tail with
    | .value _ _ _ e =>
      if x.isNamed "default" then .default e
      else if x.isNamed "legacy" then .legacy e
      else unknown
    | _ => unknown

/-- What is told of an argument that is unknown. -/
def surprise (x : WrittenArg) : Diagnostic :=
  ⟨.unknownArgument ((x.path.path.ident?.map Ident.text).getD "?"), x.path.path.tokens.span⟩

variable {x : WrittenArg} {inp : Input} {n : Nat}

/-- An argument is unknown if it has none of the three names. -/
theorem isKnown_eq_false_iff : x.isKnown = false ↔
    x.isNamed "skip" = false ∧ x.isNamed "default" = false ∧ x.isNamed "legacy" = false := by
  rw [isKnown, Bool.or_eq_false_iff, Bool.or_eq_false_iff, and_assoc]

/-- An unknown argument says that it is unknown. -/
theorem arg_of_not_isKnown (h : x.isKnown = false) :
    x.arg = .unknown ((x.path.path.ident?.map Ident.text).getD "?") x.path.path.tokens.span := by
  obtain ⟨hskip, hdefault, hlegacy⟩ := isKnown_eq_false_iff.1 h
  unfold arg
  rw [hskip, hdefault, hlegacy]
  cases x.tail <;> rfl

/-- What sticks is a group in brackets other than parentheses. -/
theorem exists_group_of_sticks (h : x.sticks = true) :
    ∃ d body o c, x.tail = .group d body o c ∧ d ≠ .parenthesis := by
  unfold sticks at h
  cases htail : x.tail with
  | nothing =>
    rw [htail] at h
    cases h
  | value spacing equals ts e =>
    rw [htail] at h
    cases h
  | group d body o c =>
    rw [htail] at h
    refine ⟨d, body, o, c, rfl, ?_⟩
    rintro rfl
    cases h

/-- A known argument is read to its end. -/
theorem sticks_of_isKnown (wellFormed : x.IsWellFormed) (known : x.isKnown = true) :
    x.sticks = false := by
  by_contra hsticks
  obtain ⟨d, body, o, c, htail, -⟩ := exists_group_of_sticks (by simpa using hsticks)
  rw [IsWellFormed, htail, known] at wellFormed
  cases wellFormed

/-! ### Reading an argument -/

/-- The path of an argument is read. -/
theorem path_eq (x : WrittenArg) (inp : Input) (ends : EndsArgument inp.rest) :
    FieldArg.path { inp with rest := x.tokens ++ inp.rest } =
      .ok (x.path.path, { inp with rest := x.tail.tokens ++ inp.rest }) := by
  have hcolons : Look.op "::" (x.tail.tokens ++ inp.rest) = false := by
    cases x.tail with
    | nothing => exact ends.not_sees.1
    | value spacing equals ts e => cases spacing <;> rfl
    | group d body o c => rfl
  rw [tokens, List.append_assoc]
  exact x.path.path_eq { inp with rest := x.tail.tokens ++ inp.rest } hcolons

/-- A value is read if it is written where the argument ends. -/
theorem value_eq {spacing : Spacing} {equals : Span} {ts : Tokens} {e : Expr}
    (written : e.IsWritten ts) (ends : EndsArgument inp.rest)
    (deep : 8 * (Tokens.size (ArgTail.value spacing equals ts e).tokens + 2) ≤ n) :
    FieldArg.value (Nat.repeat Grammar.step n Grammar.exhausted)
      { inp with rest := (ArgTail.value spacing equals ts e).tokens ++ inp.rest } =
        .ok (e, inp) := by
  have hsize : Tokens.size ts ≤ Tokens.size (ArgTail.value spacing equals ts e).tokens :=
    Nat.le_add_left _ _
  exact run_bind_eq_ok_iff.2 ⟨_, _, rfl, written n (by omega) inp ends⟩

/-- An unknown argument is told, and then what is behind it is passed over. -/
theorem behind_of_not_isKnown (h : x.isKnown = false) (g : Grammar) :
    FieldArg.behind g x.path.path = ([x.arg], do
      FieldArg.skipValue g
      return []) := by
  rw [arg_of_not_isKnown h]
  obtain ⟨hskip, hdefault, hlegacy⟩ := isKnown_eq_false_iff.1 h
  unfold isNamed at hskip hdefault hlegacy
  unfold FieldArg.behind
  rw [hskip, hdefault, hlegacy]
  rfl

/-- **What is behind an unknown argument** is passed over: nothing, a value, or parentheses. -/
theorem skipValue_eq (passes : x.sticks = false) (ends : EndsArgument inp.rest)
    (written : ∀ spacing equals ts e, x.tail = .value spacing equals ts e → e.IsWritten ts)
    (deep : 8 * (Tokens.size x.tail.tokens + 2) ≤ n) :
    FieldArg.skipValue (Nat.repeat Grammar.step n Grammar.exhausted)
      { inp with rest := x.tail.tokens ++ inp.rest } = .ok ((), inp) := by
  unfold sticks at passes
  refine run_bind_eq_ok_iff.2 ⟨_, _, rfl, ?_⟩
  cases htail : x.tail with
  | nothing =>
    obtain ⟨-, hequals, hparen⟩ := ends.not_sees
    have hrest : ArgTail.nothing.tokens ++ inp.rest = inp.rest := rfl
    rw [hrest, hequals]
    refine run_bind_eq_ok_iff.2 ⟨_, _, rfl, ?_⟩
    rw [hparen]
    rfl
  | value spacing equals ts e =>
    rw [htail] at deep
    cases spacing <;>
      exact run_bind_eq_ok_iff.2 ⟨e, _, value_eq (written _ _ _ _ htail) ends deep, rfl⟩
  | group d body o c =>
    rw [htail] at passes
    cases d with
    | parenthesis => rfl
    | bracket => cases passes
    | brace => cases passes

/-- Other groups are not passed over. -/
theorem skipValue_of_sticks (sticks : x.sticks = true) (g : Grammar) (inp : Input) :
    FieldArg.skipValue g { inp with rest := x.tail.tokens ++ inp.rest } =
      .ok ((), { inp with rest := x.tail.tokens ++ inp.rest }) := by
  obtain ⟨d, body, o, c, htail, hd⟩ := exists_group_of_sticks sticks
  rw [htail]
  cases d with
  | parenthesis => exact absurd rfl hd
  | bracket => rfl
  | brace => rfl

/-- **An argument is read to its end** unless a group behind it is not passed over. -/
theorem behind_eq (inp : Input) (wellFormed : x.IsWellFormed) (passes : x.sticks = false)
    (ends : EndsArgument inp.rest) (deep : 8 * (Tokens.size x.tail.tokens + 2) ≤ n) :
    ∃ args, (FieldArg.behind (Nat.repeat Grammar.step n Grammar.exhausted) x.path.path).2
        { inp with rest := x.tail.tokens ++ inp.rest } = .ok (args, inp) ∧
      (FieldArg.behind (Nat.repeat Grammar.step n Grammar.exhausted) x.path.path).1 ++ args =
        [x.arg] := by
  have written : ∀ spacing equals ts e, x.tail = .value spacing equals ts e → e.IsWritten ts := by
    intro spacing equals ts e htail
    rw [IsWellFormed, htail] at wellFormed
    exact wellFormed.2
  cases hknown : x.isKnown with
  | false =>
    rw [behind_of_not_isKnown hknown]
    exact ⟨[], run_bind_eq_ok_iff.2 ⟨(), _, skipValue_eq passes ends written deep, rfl⟩, rfl⟩
  | true =>
    unfold IsWellFormed at wellFormed
    unfold isKnown isNamed at hknown
    unfold FieldArg.behind arg
    cases htail : x.tail with
    | nothing =>
      rw [htail] at wellFormed
      unfold isNamed at wellFormed ⊢
      rw [wellFormed.1, wellFormed.2, Bool.or_false, Bool.or_false] at hknown
      rw [hknown]
      exact ⟨[], rfl, rfl⟩
    | value spacing equals ts e =>
      rw [htail] at wellFormed deep
      unfold isNamed at wellFormed ⊢
      have hvalue := value_eq wellFormed.2 ends deep
      rw [wellFormed.1, Bool.false_or] at hknown
      rw [wellFormed.1]
      cases hdefault : x.path.path.isIdent "default" with
      | true => exact ⟨[.default e], run_bind_eq_ok_iff.2 ⟨e, _, hvalue, rfl⟩, rfl⟩
      | false =>
        rw [hdefault, Bool.false_or] at hknown
        rw [hknown]
        exact ⟨[.legacy e], run_bind_eq_ok_iff.2 ⟨e, _, hvalue, rfl⟩, rfl⟩
    | group d body o c =>
      rw [htail] at wellFormed
      exact absurd (wellFormed.symm.trans hknown) Bool.false_ne_true

/-! ### Arguments that stick -/

/-- What is said of an argument that sticks: a comma should stand where its group opens. -/
def stuck (x : WrittenArg) : SyntaxError :=
  ⟨.expected [inBackquotes ","] false, (x.tail.tokens.head?.map Token.headSpan).getD .none⟩

/-- Whether the argument is well-formed and read to its end. -/
def IsRead (x : WrittenArg) : Prop := x.IsWellFormed ∧ x.sticks = false

/-- The arguments that are read: those up to the first that sticks. -/
def heard : List WrittenArg → List WrittenArg
  | [] => []
  | x :: xs => x :: if x.sticks then [] else heard xs

/-- Why no more arguments are read. -/
def stuck? (xs : List WrittenArg) : Option SyntaxError :=
  (xs.find? WrittenArg.sticks).map WrittenArg.stuck

variable {xs : List WrittenArg} {m : Nat}

/-- Nothing is said of an argument that sticks if none does. -/
theorem stuck?_eq_none_iff : stuck? xs = none ↔ ∀ x ∈ xs, x.sticks = false := by
  simp only [stuck?, Option.map_eq_none_iff, List.find?_eq_none, Bool.not_eq_true]

/-- Arguments that do not stick are all read. -/
theorem heard_of_passes (passes : ∀ x ∈ xs, x.sticks = false) :
    heard xs = xs ∧ stuck? xs = none := by
  refine ⟨?_, stuck?_eq_none_iff.2 passes⟩
  induction xs with
  | nil => rfl
  | cons x xs ih =>
    obtain ⟨hx, hxs⟩ := List.forall_mem_cons.1 passes
    rw [heard, hx, ih hxs]
    rfl

/-- The arguments that are read are among those that are written. -/
theorem mem_of_mem_heard (h : x ∈ heard xs) : x ∈ xs := by
  induction xs with
  | nil => exact h
  | cons y xs ih =>
    rw [heard] at h
    rcases List.mem_cons.1 h with rfl | h
    · exact List.mem_cons_self
    · split at h
      · cases h
      · exact List.mem_cons_of_mem _ (ih h)

/-- An argument is written with a token at least. -/
theorem tokens_ne_nil (x : WrittenArg) : x.tokens ≠ [] := by
  simp [tokens, WrittenPath.tokens]

/-- Reading ends at an argument that sticks. -/
theorem readAll_of_sticks (wellFormed : x.IsWellFormed) (sticks : x.sticks = true) (g : Grammar)
    {rest : Tokens} (ends : EndsArgument rest) (n : Nat) (finish : Span) :
    FieldArg.readAll g (n + 1) { rest := x.tokens ++ rest, finish } = ([x.arg], some x.stuck) := by
  obtain ⟨d, body, o, c, htail, -⟩ := exists_group_of_sticks sticks
  have hknown : x.isKnown = false := by
    rw [IsWellFormed, htail] at wellFormed
    exact wellFormed
  have hpath := path_eq x { rest, finish } ends
  have hskip : (do FieldArg.skipValue g; return []) { rest := x.tail.tokens ++ rest, finish } =
      .ok (([] : List FieldArg), { rest := x.tail.tokens ++ rest, finish }) :=
    run_bind_eq_ok_iff.2 ⟨(), _, skipValue_of_sticks sticks g { rest, finish }, rfl⟩
  dsimp only at hpath
  simp only [FieldArg.readAll, hpath, behind_of_not_isKnown hknown, hskip]
  rw [stuck, htail]
  rfl

/-- An argument that does not stick is read, and then those behind the comma. -/
theorem readAll_of_passes (wellFormed : x.IsWellFormed) (passes : x.sticks = false)
    (deep : 8 * (Tokens.size x.tail.tokens + 2) ≤ m) (n : Nat) (finish : Span) :
    (FieldArg.readAll (Nat.repeat Grammar.step m Grammar.exhausted) (n + 1)
        { rest := x.tokens, finish } = ([x.arg], none)) ∧
      ∀ spacing comma ts, FieldArg.readAll (Nat.repeat Grammar.step m Grammar.exhausted) (n + 1)
        { rest := x.tokens ++ .punct ',' spacing comma :: ts, finish } =
          if ts = [] then ([x.arg], none)
          else
            let more := FieldArg.readAll (Nat.repeat Grammar.step m Grammar.exhausted) n
              { rest := ts, finish }
            (x.arg :: more.1, more.2) := by
  refine ⟨?_, fun spacing comma ts => ?_⟩
  · obtain ⟨args, hargs, hfound⟩ :=
      behind_eq { rest := [], finish } wellFormed passes (Or.inl rfl) deep
    have hpath := path_eq x { rest := [], finish } (Or.inl rfl)
    simp only [List.append_nil] at hpath hargs
    simp only [FieldArg.readAll, hpath, hargs, hfound, List.isEmpty_nil, if_true]
  · have ends : EndsArgument (.punct ',' spacing comma :: ts) :=
      Or.inr (by cases spacing <;> rfl)
    obtain ⟨args, hargs, hfound⟩ :=
      behind_eq { rest := .punct ',' spacing comma :: ts, finish } wellFormed passes ends deep
    have hpath := path_eq x { rest := .punct ',' spacing comma :: ts, finish } ends
    have hcomma : op "," { rest := .punct ',' spacing comma :: ts, finish } =
        .ok ([.punct ',' .alone comma], { rest := ts, finish }) := by
      cases spacing <;> rfl
    simp only at hpath hargs
    simp only [FieldArg.readAll, hpath, hargs, hfound, hcomma, List.isEmpty_cons,
      Bool.false_eq_true, if_false, List.isEmpty_iff]
    split <;> rfl

end WrittenArg

/-! ### Lists of arguments -/

/-- Whether the tokens are these arguments with commas between them, and perhaps one behind the
last. -/
inductive ArgsWritten : List WrittenArg → Tokens → Prop
  | none : ArgsWritten [] []
  | last (x : WrittenArg) : ArgsWritten [x] x.tokens
  | more (x : WrittenArg) (spacing : Spacing) (comma : Span) {xs : List WrittenArg} {ts : Tokens} :
    ArgsWritten xs ts → ArgsWritten (x :: xs) (x.tokens ++ .punct ',' spacing comma :: ts)

/-- The number of tokens of two pieces, one behind the other. -/
theorem Tokens.size_append (ts us : Tokens) :
    Tokens.size (ts ++ us) = Tokens.size ts + Tokens.size us := by
  induction ts with
  | nil => rw [List.nil_append, Tokens.size, Nat.zero_add]
  | cons t ts ih => rw [List.cons_append, Tokens.size, Tokens.size, ih, Nat.add_assoc]

namespace ArgsWritten

variable {xs : List WrittenArg} {ts : Tokens} {finish : Span} {m n : Nat}

/-- No arguments are written with no tokens. -/
theorem eq_nil (h : ArgsWritten xs []) : xs = [] := by
  generalize hts : ([] : Tokens) = ts at h
  cases h with
  | none => rfl
  | last x => exact absurd hts.symm x.tokens_ne_nil
  | more x spacing comma h => simp at hts

/-- There are no more arguments than tokens. -/
theorem length_le (h : ArgsWritten xs ts) : xs.length ≤ ts.length := by
  induction h with
  | none => exact Nat.le_refl _
  | last x => exact List.length_pos_iff.2 x.tokens_ne_nil
  | more x spacing comma h ih =>
    rw [List.length_cons, List.length_append, List.length_cons]
    omega

/-- **Arguments are read** up to the first that sticks. -/
theorem readAll_eq (h : ArgsWritten xs ts) (nonempty : xs ≠ [])
    (wellFormed : ∀ x ∈ xs, x.IsWellFormed) (deep : 8 * (Tokens.size ts + 2) ≤ m)
    (hn : xs.length ≤ n) :
    FieldArg.readAll (Nat.repeat Grammar.step m Grammar.exhausted) n { rest := ts, finish } =
      ((WrittenArg.heard xs).map WrittenArg.arg, WrittenArg.stuck? xs) := by
  induction h generalizing n with
  | none => exact absurd rfl nonempty
  | last x =>
    obtain ⟨n, rfl⟩ := Nat.exists_eq_succ_of_ne_zero (Nat.ne_zero_of_lt hn)
    have hx := wellFormed x List.mem_cons_self
    rw [WrittenArg.tokens, Tokens.size_append] at deep
    cases hsticks : x.sticks with
    | true =>
      have hread := WrittenArg.readAll_of_sticks hx hsticks
        (Nat.repeat Grammar.step m Grammar.exhausted) (Or.inl rfl) n finish
      rw [List.append_nil] at hread
      simp [hread, WrittenArg.heard, WrittenArg.stuck?, hsticks]
    | false =>
      have hdeep : 8 * (Tokens.size x.tail.tokens + 2) ≤ m := by omega
      have hread := (WrittenArg.readAll_of_passes hx hsticks hdeep n finish).1
      simp [hread, WrittenArg.heard, WrittenArg.stuck?, hsticks]
  | @more x spacing comma xs ts h ih =>
    obtain ⟨n, rfl⟩ := Nat.exists_eq_succ_of_ne_zero (Nat.ne_zero_of_lt hn)
    obtain ⟨hx, hxs⟩ := List.forall_mem_cons.1 wellFormed
    rw [WrittenArg.tokens, Tokens.size_append, Tokens.size_append, Tokens.size] at deep
    cases hsticks : x.sticks with
    | true =>
      have ends : EndsArgument (.punct ',' spacing comma :: ts) :=
        Or.inr (by cases spacing <;> rfl)
      rw [WrittenArg.readAll_of_sticks hx hsticks _ ends n finish]
      simp [WrittenArg.heard, WrittenArg.stuck?, hsticks]
    | false =>
      rw [(WrittenArg.readAll_of_passes hx hsticks (by omega) n finish).2]
      by_cases hts : ts = []
      · subst hts
        rw [if_pos rfl, h.eq_nil]
        simp [WrittenArg.heard, WrittenArg.stuck?, hsticks]
      · have hmore : xs ≠ [] := by
          rintro rfl
          cases h
          exact hts rfl
        rw [if_neg hts, ih hmore hxs (by omega) (Nat.le_of_succ_le_succ hn)]
        simp [WrittenArg.heard, WrittenArg.stuck?, hsticks]

end ArgsWritten

/-- Whether the attribute is a field's directive with these arguments in its brackets. -/
def Attribute.Holds (a : Attribute) (xs : List WrittenArg) : Prop :=
  FieldSettings.isDirective a = true ∧
    ∃ d ts o c, a.args = .list d ts o c ∧ ArgsWritten xs ts

/-- **The arguments of an attribute** are read up to the first that sticks. -/
theorem Attribute.Holds.ofAttribute_eq {a : Attribute} {xs : List WrittenArg} (h : a.Holds xs)
    (wellFormed : ∀ x ∈ xs, x.IsWellFormed) :
    FieldArg.ofAttribute a =
      ((WrittenArg.heard xs).map WrittenArg.arg, WrittenArg.stuck? xs) := by
  obtain ⟨-, d, ts, o, c, hargs, hwritten⟩ := h
  rw [FieldArg.ofAttribute, hargs]
  dsimp only
  cases ts with
  | nil =>
    rw [hwritten.eq_nil]
    rfl
  | cons t ts =>
    have hnonempty : xs ≠ [] := by
      rintro rfl
      cases hwritten
    exact hwritten.readAll_eq hnonempty wellFormed (Nat.le_refl _)
      (Nat.le_succ_of_le hwritten.length_le)

/-- **Arguments that can all be read** are read, and nothing is told. -/
theorem Attribute.Holds.ofAttribute_eq_of_isRead {a : Attribute} {xs : List WrittenArg}
    (h : a.Holds xs) (read : ∀ x ∈ xs, x.IsRead) :
    FieldArg.ofAttribute a = (xs.map WrittenArg.arg, none) := by
  obtain ⟨hheard, hstuck⟩ := WrittenArg.heard_of_passes fun x hx => (read x hx).2
  rw [h.ofAttribute_eq fun x hx => (read x hx).1, hheard, hstuck]

/-- A directive of a field with these tokens in its brackets. -/
def fieldDirective (ts : Tokens) : Attribute where
  mark := [.punct '#' .alone .none]
  path := ⟨false, [{ name := { name := FieldSettings.attributeName } }],
    [.ident { name := FieldSettings.attributeName }]⟩
  args := .list .parenthesis ts .none .none
  opening := .none
  closing := .none

/-- A directive holds the arguments that its tokens are written with. -/
theorem holds_fieldDirective {xs : List WrittenArg} {ts : Tokens} (h : ArgsWritten xs ts) :
    (fieldDirective ts).Holds xs :=
  ⟨rfl, .parenthesis, ts, .none, .none, rfl, h⟩

end Boilerplate
