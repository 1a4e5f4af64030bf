import QueryScaffold.Name.TypeName

/-!
# Brackets and the splitting of type arguments

A list of type arguments is split at the commas outside angle brackets. A text passes through the
splitting in one piece if it closes the brackets that it opens and has no comma where none is open;
joined with commas, such texts come out as they went in.

* `depthAfter`, `CommasInside`: the running depth, and the condition on commas;
* `Closed`: a text that leaves the depth as it was, with every comma off depth zero;
* `joined_splitArguments`, `splitArguments_joined`: splitting and joining undo each other.

The depth is an integer that may go below zero, and a comma there does not split either.
-/

namespace QueryScaffold

namespace Text

/-! ## The running depth -/

/-- The depth after a text, from the depth before it. -/
def depthAfter (depth : Int) (t : Text) : Int :=
  t.foldl bracketDepth depth

/-- Every comma of a text that is read from a depth on stands at a depth other than zero. -/
def CommasInside (depth : Int) : Text → Prop
  | [] => True
  | c :: rest => (c = CodePoint.ofChar ',' → depth ≠ 0) ∧ CommasInside (bracketDepth depth c) rest

/-- A text that is read from a depth on comes back to it, and no comma stands at depth zero. -/
structure Closed (depth : Int) (t : Text) : Prop where
  depthAfter_eq : depthAfter depth t = depth
  commasInside : CommasInside depth t

theorem depthAfter_append (depth : Int) (s t : Text) :
    depthAfter depth (s ++ t) = depthAfter (depthAfter depth s) t :=
  List.foldl_append

theorem commasInside_append {depth : Int} {s t : Text} :
    CommasInside depth (s ++ t) ↔
      CommasInside depth s ∧ CommasInside (depthAfter depth s) t := by
  induction s generalizing depth with
  | nil => simp [CommasInside, depthAfter]
  | cons c rest ih =>
    rw [List.cons_append, CommasInside, CommasInside, ih, and_assoc]
    rfl

theorem bracketDepth_of_ne {depth : Int} {c : CodePoint} (ho : c ≠ CodePoint.ofChar '<')
    (hc : c ≠ CodePoint.ofChar '>') : bracketDepth depth c = depth := by
  rw [bracketDepth, if_neg ho, if_neg hc]

namespace Closed

variable {depth : Int} {s t : Text}

theorem nil (depth : Int) : Closed depth [] := ⟨rfl, trivial⟩

theorem append (hs : Closed depth s) (ht : Closed depth t) : Closed depth (s ++ t) := by
  refine ⟨?_, commasInside_append.2 ⟨hs.commasInside, ?_⟩⟩
  · rw [depthAfter_append, hs.depthAfter_eq, ht.depthAfter_eq]
  · rw [hs.depthAfter_eq]
    exact ht.commasInside

/-- A comma is closed off depth zero. -/
theorem comma (h : depth ≠ 0) : Closed depth ("," : Text) := by
  have hd : bracketDepth depth (CodePoint.ofChar ',') = depth :=
    bracketDepth_of_ne (by decide) (by decide)
  exact ⟨hd, fun _ => h, trivial⟩

/-- A text without brackets and commas is closed at every depth. -/
theorem of_plain (depth : Int) (ho : CodePoint.ofChar '<' ∉ t) (hc : CodePoint.ofChar '>' ∉ t)
    (hs : CodePoint.ofChar ',' ∉ t) : Closed depth t := by
  induction t with
  | nil => exact nil depth
  | cons c rest ih =>
    simp only [List.mem_cons, not_or] at ho hc hs
    have hd : bracketDepth depth c = depth := bracketDepth_of_ne (Ne.symm ho.1) (Ne.symm hc.1)
    have hrest := ih ho.2 hc.2 hs.2
    refine ⟨?_, fun he => absurd he.symm hs.1, ?_⟩
    · show depthAfter (bracketDepth depth c) rest = depth
      rw [hd, hrest.depthAfter_eq]
    · rw [hd]
      exact hrest.commasInside

/-- Brackets around a text that is closed one level further in. -/
theorem brackets (h : Closed (depth + 1) t) : Closed depth (("<" : Text) ++ t ++ (">" : Text)) := by
  have hopen : depthAfter depth ("<" : Text) = depth + 1 := rfl
  have hclose : depthAfter (depth + 1) (">" : Text) = depth := by
    show depth + 1 - 1 = depth
    omega
  refine ⟨?_, commasInside_append.2 ⟨commasInside_append.2 ⟨?_, ?_⟩, ?_⟩⟩
  · rw [depthAfter_append, depthAfter_append, hopen, h.depthAfter_eq, hclose]
  · exact ⟨fun he => absurd he (by decide), trivial⟩
  · rw [hopen]
    exact h.commasInside
  · exact ⟨fun he => absurd he (by decide), trivial⟩

/-- Texts that are closed off depth zero can be joined with commas there. -/
theorem joined (h : depth ≠ 0) {parts : List Text} (hp : ∀ part ∈ parts, Closed depth part) :
    Closed depth (joined ("," : Text) parts) := by
  induction parts with
  | nil => exact nil depth
  | cons part rest ih =>
    cases rest with
    | nil => exact hp part (by simp)
    | cons next rest =>
      rw [joined_cons_cons]
      exact ((hp part (by simp)).append (comma h)).append
        (ih fun p hm => hp p (List.mem_cons_of_mem _ hm))

end Closed

/-! ## Splitting and joining -/

/-- Joining the arguments with commas gives the text back. -/
theorem joined_splitArgumentsFrom (depth : Int) (t : Text) :
    joined ("," : Text) (splitArgumentsFrom depth t) = t := by
  induction t generalizing depth with
  | nil => rfl
  | cons c rest ih =>
    rw [splitArgumentsFrom]
    split
    · next h =>
      rw [joined_nil_cons _ _ (splitArgumentsFrom_ne_nil depth rest), ih, h.1]
      rfl
    · rw [joined_extendFirst _ _ _ (splitArgumentsFrom_ne_nil _ rest), ih]

theorem joined_splitArguments (t : Text) : joined ("," : Text) (splitArguments t) = t :=
  joined_splitArgumentsFrom 0 t

theorem foldr_extendFirst_cons (s part : Text) (parts : List Text) :
    s.foldr extendFirst (part :: parts) = (s ++ part) :: parts := by
  induction s with
  | nil => rfl
  | cons c rest ih =>
    rw [List.foldr_cons, ih]
    rfl

/-- No comma of the front splits, so the front goes to the first argument of what follows. -/
theorem splitArgumentsFrom_append {depth : Int} {s : Text} (h : CommasInside depth s) (t : Text) :
    splitArgumentsFrom depth (s ++ t) =
      s.foldr extendFirst (splitArgumentsFrom (depthAfter depth s) t) := by
  induction s generalizing depth with
  | nil => rfl
  | cons c rest ih =>
    obtain ⟨hc, hrest⟩ := h
    have hsplit : ¬(c = CodePoint.ofChar ',' ∧ depth = 0) := fun ⟨he, hd⟩ => hc he hd
    rw [List.cons_append, splitArgumentsFrom, if_neg hsplit, ih hrest]
    rfl

theorem splitArguments_of_closed {t : Text} (h : Closed 0 t) : splitArguments t = [t] := by
  have hsplit := splitArgumentsFrom_append h.commasInside []
  rw [List.append_nil] at hsplit
  rw [splitArguments, hsplit, splitArgumentsFrom, foldr_extendFirst_cons, List.append_nil]

theorem splitArguments_closed_append {s : Text} (h : Closed 0 s) (t : Text) :
    splitArguments (s ++ ("," : Text) ++ t) = s :: splitArguments t := by
  have hcomma : splitArgumentsFrom 0 (("," : Text) ++ t) = [] :: splitArguments t := rfl
  rw [List.append_assoc, splitArguments, splitArgumentsFrom_append h.commasInside,
    h.depthAfter_eq, hcomma, foldr_extendFirst_cons, List.append_nil]

/-- **Splitting undoes joining**, if there is an argument and every argument is closed. -/
theorem splitArguments_joined {parts : List Text} (hne : parts ≠ [])
    (h : ∀ part ∈ parts, Closed 0 part) : splitArguments (joined ("," : Text) parts) = parts := by
  induction parts with
  | nil => exact absurd rfl hne
  | cons part rest ih =>
    have hpart : Closed 0 part := h part (by simp)
    cases rest with
    | nil => exact splitArguments_of_closed hpart
    | cons next rest =>
      rw [joined_cons_cons, splitArguments_closed_append hpart,
        ih (by simp) fun p hp => h p (List.mem_cons_of_mem _ hp)]

end Text

end QueryScaffold
