import Mathlib.Data.Nat.Init
import QueryScaffold.Proofs.Name.Brackets
import QueryScaffold.Proofs.Text.Splitting

/-!
# The arguments that a text splits into

A text is split at the commas where the opening brackets before them are as many as the closing
ones. This says which arguments come out, for texts whose brackets match and for texts whose
brackets do not, and how one pass from left to right finds them.

* `bracketBalance`: by how many the opening brackets of a text outnumber the closing ones;
* `IsArgument`: a text that can stand in a list of arguments, and `closed_zero_iff`;
* `splitArguments_inverts_joined`: **splitting and joining undo each other**;
* `SplitsInto`: the cuts of any text, and `splitArguments_eq_iff`: **these and no others are made**;
* `ArgumentScan`: a pass that keeps the arguments so far, the depth, and where the next argument
  starts, with `ArgumentScan.Reaches`, which every turn preserves;
* `scanArguments_eq`: **the pass cuts where the recursion does**.
-/

namespace QueryScaffold

namespace Text

/-! ## The depth as a difference of counts -/

/-- By how many the opening brackets of a text outnumber the closing ones. -/
def bracketBalance (t : Text) : Int :=
  (t.count (CodePoint.ofChar '<') : Int) - t.count (CodePoint.ofChar '>')

theorem bracketBalance_cons (c : CodePoint) (t : Text) :
    bracketBalance (c :: t) = bracketDepth 0 c + bracketBalance t := by
  have hne : CodePoint.ofChar '<' ≠ CodePoint.ofChar '>' := by decide
  rw [bracketBalance, bracketBalance, bracketDepth]
  by_cases ho : c = CodePoint.ofChar '<'
  · subst ho
    rw [List.count_cons_self, List.count_cons_of_ne hne, if_pos rfl]
    omega
  · by_cases hc : c = CodePoint.ofChar '>'
    · subst hc
      rw [List.count_cons_self, List.count_cons_of_ne ho, if_neg ho, if_pos rfl]
      omega
    · rw [List.count_cons_of_ne ho, List.count_cons_of_ne hc, if_neg ho, if_neg hc]
      omega

theorem bracketDepth_eq_add (depth : Int) (c : CodePoint) :
    bracketDepth depth c = depth + bracketDepth 0 c := by
  simp only [bracketDepth]
  split
  · omega
  · split <;> omega

theorem depthAfter_eq (depth : Int) (t : Text) : depthAfter depth t = depth + bracketBalance t := by
  induction t generalizing depth with
  | nil => simp [depthAfter, bracketBalance]
  | cons c rest ih =>
    show depthAfter (bracketDepth depth c) rest = _
    rw [ih, bracketBalance_cons, bracketDepth_eq_add]
    omega

theorem commasInside_iff {depth : Int} {t : Text} :
    CommasInside depth t ↔
      ∀ place < t.length, t[place]? = some (CodePoint.ofChar ',') →
        depth + bracketBalance (t.take place) ≠ 0 := by
  induction t generalizing depth with
  | nil => simp [CommasInside]
  | cons c rest ih =>
    have hstart : depth + bracketBalance [] = depth := by simp [bracketBalance]
    have hshift : ∀ place, bracketDepth depth c + bracketBalance (rest.take place) =
        depth + bracketBalance (c :: rest.take place) := by
      intro place
      rw [bracketBalance_cons, bracketDepth_eq_add]
      omega
    simp only [CommasInside, ih, List.length_cons, Nat.forall_lt_succ_left, List.getElem?_cons_zero,
      List.getElem?_cons_succ, List.take_zero, List.take_succ_cons, Option.some.injEq, hstart,
      hshift]

/-! ## Arguments -/

/-- A text that can stand in a list of arguments: it has as many opening brackets as closing ones,
and where it has a comma the brackets before it do not even out. Closing brackets may come first. -/
structure IsArgument (t : Text) : Prop where
  count_eq : t.count (CodePoint.ofChar '<') = t.count (CodePoint.ofChar '>')
  commas : ∀ place < t.length, t[place]? = some (CodePoint.ofChar ',') →
    bracketBalance (t.take place) ≠ 0

instance (t : Text) : Decidable (IsArgument t) :=
  decidable_of_iff
    (t.count (CodePoint.ofChar '<') = t.count (CodePoint.ofChar '>') ∧
      ∀ place < t.length, t[place]? = some (CodePoint.ofChar ',') →
        bracketBalance (t.take place) ≠ 0)
    ⟨fun h => ⟨h.1, h.2⟩, fun h => ⟨h.count_eq, h.commas⟩⟩

/-- The arguments are the texts that pass through the splitting in one piece. -/
theorem closed_zero_iff {t : Text} : Closed 0 t ↔ IsArgument t := by
  have hcount : depthAfter 0 t = 0 ↔
      t.count (CodePoint.ofChar '<') = t.count (CodePoint.ofChar '>') := by
    rw [depthAfter_eq, bracketBalance]
    omega
  have hcommas : CommasInside 0 t ↔ ∀ place < t.length, t[place]? = some (CodePoint.ofChar ',') →
      0 + bracketBalance (t.take place) ≠ 0 := commasInside_iff
  simp only [Int.zero_add] at hcommas
  exact ⟨fun h => ⟨hcount.1 h.depthAfter_eq, hcommas.1 h.commasInside⟩,
    fun h => ⟨hcount.2 h.count_eq, hcommas.2 h.commas⟩⟩

/-- **Splitting and joining undo each other.** Whatever a text splits into, joined with commas it is
the text again; and arguments that were joined are the ones that come out. -/
theorem splitArguments_inverts_joined :
    (∀ t : Text, joined ("," : Text) (splitArguments t) = t) ∧
    ∀ parts : List Text, parts ≠ [] → (∀ part ∈ parts, IsArgument part) →
      splitArguments (joined ("," : Text) parts) = parts :=
  ⟨joined_splitArguments, fun _ hne hparts =>
    splitArguments_joined hne fun part hpart => closed_zero_iff.2 (hparts part hpart)⟩

/-- Three arguments, of which the first one closes before it opens and the second one is empty. -/
def unusualArguments : List Text :=
  [(">,<" : Text), ("" : Text), ("Map<K, V>" : Text)]

/-- Brackets that do not match at all, and arguments that are not the usual ones. -/
theorem splitArguments_inverts_joined_unusual :
    joined ("," : Text) (splitArguments "a>,b,c<,<") = "a>,b,c<,<" ∧
    unusualArguments ≠ [] ∧ (∀ part ∈ unusualArguments, IsArgument part) ∧
    splitArguments (joined ("," : Text) unusualArguments) = unusualArguments := by
  have hne : unusualArguments ≠ [] := List.cons_ne_nil _ _
  have hparts : ∀ part ∈ unusualArguments, IsArgument part := by decide
  obtain ⟨hjoined, hsplit⟩ := splitArguments_inverts_joined
  exact ⟨hjoined _, hne, hparts, hsplit _ hne hparts⟩

/-! ## The cuts of any text -/

/-- A text, read from a depth on, is cut into parts. Behind the last cut no comma stands at depth
zero, and nothing is said about brackets there; before a cut the depth has come to zero for the
comma that is cut at, and for no comma before it. -/
inductive SplitsInto : Int → Text → List Text → Prop
  | last {depth : Int} {t : Text} : CommasInside depth t → SplitsInto depth t [t]
  | cut {depth : Int} {part rest : Text} {parts : List Text} : CommasInside depth part →
      depthAfter depth part = 0 → SplitsInto 0 rest parts →
      SplitsInto depth (part ++ ("," : Text) ++ rest) (part :: parts)

namespace SplitsInto

variable {depth : Int} {t : Text} {parts : List Text}

/-- A code point that is not cut at goes to the first part. -/
theorem extendFirst {c : CodePoint} (hc : ¬(c = CodePoint.ofChar ',' ∧ depth = 0))
    (h : SplitsInto (bracketDepth depth c) t parts) :
    SplitsInto depth (c :: t) (extendFirst c parts) := by
  have hcomma : c = CodePoint.ofChar ',' → depth ≠ 0 := fun he hd => hc ⟨he, hd⟩
  cases h with
  | last hcommas => exact .last ⟨hcomma, hcommas⟩
  | @cut _ part rest parts hcommas hdepth hrest =>
    have hpart : CommasInside depth (c :: part) := ⟨hcomma, hcommas⟩
    exact .cut hpart hdepth hrest

theorem splitArgumentsFrom_eq (h : SplitsInto depth t parts) :
    splitArgumentsFrom depth t = parts := by
  induction h with
  | last hcommas =>
    have hsplit := splitArgumentsFrom_append hcommas []
    rwa [List.append_nil, splitArgumentsFrom, foldr_extendFirst_cons, List.append_nil] at hsplit
  | @cut _ part rest parts hcommas hdepth _ ih =>
    have hcomma : splitArgumentsFrom 0 (("," : Text) ++ rest) = [] :: splitArgumentsFrom 0 rest :=
      rfl
    rw [List.append_assoc, splitArgumentsFrom_append hcommas, hdepth, hcomma, ih,
      foldr_extendFirst_cons, List.append_nil]

end SplitsInto

theorem splitsInto_splitArgumentsFrom (depth : Int) (t : Text) :
    SplitsInto depth t (splitArgumentsFrom depth t) := by
  induction t generalizing depth with
  | nil => exact .last trivial
  | cons c rest ih =>
    rw [splitArgumentsFrom]
    split
    · next h =>
      obtain ⟨rfl, rfl⟩ := h
      have hnothing : CommasInside 0 [] := trivial
      exact .cut hnothing rfl (ih 0)
    · next h => exact (ih _).extendFirst h

/-- **The cuts of a text are made, and no others.** This holds of texts whose brackets do not match,
too: only the last part may have such brackets. -/
theorem splitArguments_eq_iff {t : Text} {parts : List Text} :
    splitArguments t = parts ↔ SplitsInto 0 t parts := by
  refine ⟨?_, SplitsInto.splitArgumentsFrom_eq⟩
  rintro rfl
  exact splitsInto_splitArgumentsFrom 0 t

/-- Arguments and one more text that has no comma to be cut at. -/
theorem splitsInto_joined {arguments : List Text} {last : Text}
    (harguments : ∀ a ∈ arguments, Closed 0 a) (hlast : CommasInside 0 last) :
    SplitsInto 0 (joined ("," : Text) (arguments ++ [last])) (arguments ++ [last]) := by
  induction arguments with
  | nil => exact .last hlast
  | cons a rest ih =>
    obtain ⟨ha, hrest⟩ := List.forall_mem_cons.1 harguments
    have hjoined : joined ("," : Text) (a :: rest ++ [last]) =
        a ++ ("," : Text) ++ joined ("," : Text) (rest ++ [last]) := by
      cases rest <;> rfl
    rw [hjoined]
    exact .cut ha.commasInside ha.depthAfter_eq (ih hrest)

/-! ## One pass from left to right -/

/-- How far a pass over a text has come. -/
structure ArgumentScan where
  /-- The arguments that were cut off. -/
  arguments : List Text
  depth : Int
  /-- The place where the next argument starts. -/
  start : Nat

namespace ArgumentScan

/-- One turn of the pass over a text, at a place and the code point there. -/
def step (t : Text) (scan : ArgumentScan) (place : Nat) (c : CodePoint) : ArgumentScan :=
  if c = CodePoint.ofChar ',' ∧ scan.depth = 0 then
    { scan with
      arguments := scan.arguments ++ [(t.take place).drop scan.start]
      start := place + 1 }
  else { scan with depth := bracketDepth scan.depth c }

/-- The pass has read the front of a text: the arguments that were cut off and what is read of the
next one make up the front, no cut is overdue, and the depth is that of the next one alone. -/
structure Reaches (scan : ArgumentScan) (front : Text) : Prop where
  start_le : scan.start ≤ front.length
  joined_eq : joined ("," : Text) (scan.arguments ++ [front.drop scan.start]) = front
  closed : ∀ a ∈ scan.arguments, Closed 0 a
  commasInside : CommasInside 0 (front.drop scan.start)
  depth_eq : scan.depth = depthAfter 0 (front.drop scan.start)

variable {scan : ArgumentScan} {t front rest : Text}

/-- **A turn preserves what the pass has reached**, by the code point that it reads. -/
theorem Reaches.step (h : scan.Reaches front) (c : CodePoint) (ht : t = front ++ c :: rest) :
    (scan.step t front.length c).Reaches (front ++ [c]) := by
  have hfront : t.take front.length = front := by rw [ht, List.take_left]
  have hdrop : (front ++ [c]).drop scan.start = front.drop scan.start ++ [c] :=
    List.drop_append_of_le_length h.start_le
  rw [ArgumentScan.step]
  split
  · -- A cut: what was read of the argument is closed, and nothing is read of the next one.
    next hcut =>
    obtain ⟨rfl, hdepth⟩ := hcut
    have hnext : (front ++ [CodePoint.ofChar ',']).drop (front.length + 1) = [] :=
      List.drop_eq_nil_of_le (by simp)
    have hpart : Closed 0 (front.drop scan.start) := ⟨h.depth_eq ▸ hdepth, h.commasInside⟩
    refine
      { start_le := by simp
        joined_eq := ?_
        closed := ?_
        commasInside := ?_
        depth_eq := ?_ }
    · simp only [hnext, hfront]
      rw [joined_concat _ _ (by simp), h.joined_eq, List.append_nil]
      rfl
    · simp only [hfront, List.forall_mem_append, List.forall_mem_singleton]
      exact ⟨h.closed, hpart⟩
    · simp only [hnext]
      trivial
    · simp only [hnext]
      exact hdepth
  · -- No cut: the argument grows by the code point.
    next hcut =>
    refine
      { start_le := Nat.le_trans h.start_le (by simp)
        joined_eq := ?_
        closed := h.closed
        commasInside := ?_
        depth_eq := ?_ }
    · simp only [hdrop]
      rw [joined_concat_append, h.joined_eq]
    · simp only [hdrop]
      refine commasInside_append.2 ⟨h.commasInside, fun hc hd => hcut ⟨hc, ?_⟩, trivial⟩
      rw [h.depth_eq, hd]
    · simp only [hdrop]
      rw [depthAfter_append, ← h.depth_eq]
      rfl

/-- The turns over the rest of a text, one for each place. The induction is on the rest; the front
grows by what the turn has read. -/
theorem Reaches.foldl (h : scan.Reaches front) (ht : t = front ++ rest) :
    ((rest.zipIdx front.length).foldl (fun scan pair => scan.step t pair.2 pair.1) scan).Reaches
      t := by
  induction rest generalizing scan front with
  | nil =>
    rw [ht, List.append_nil]
    exact h
  | cons c rest ih =>
    have hlength : (front ++ [c]).length = front.length + 1 := by simp
    rw [List.zipIdx_cons, List.foldl_cons, ← hlength]
    exact ih (h.step c ht) (by rw [ht, List.append_assoc, List.singleton_append])

end ArgumentScan

/-- The arguments of a text by one pass, which starts with none at depth zero; the last argument is
what stands behind the last cut. -/
def scanArguments (t : Text) : List Text :=
  let scan := t.zipIdx.foldl (fun scan pair => ArgumentScan.step t scan pair.2 pair.1) ⟨[], 0, 0⟩
  scan.arguments ++ [t.drop scan.start]

/-- **The pass cuts where the recursion does.** -/
theorem scanArguments_eq (t : Text) : scanArguments t = splitArguments t := by
  have hstart : ArgumentScan.Reaches ⟨[], 0, 0⟩ [] :=
    { start_le := Nat.le_refl 0
      joined_eq := rfl
      closed := nofun
      commasInside := trivial
      depth_eq := rfl }
  have hend := hstart.foldl (List.nil_append t).symm
  have hsplits := splitsInto_joined hend.closed hend.commasInside
  rw [hend.joined_eq] at hsplits
  exact (splitArguments_eq_iff.2 hsplits).symm

end Text

end QueryScaffold
