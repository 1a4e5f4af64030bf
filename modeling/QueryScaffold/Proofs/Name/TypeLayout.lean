import QueryScaffold.Proofs.Name.TypeName

/-!
# What stands next to what in a type name

The grammar of type names is recursive, but what may stand next to what in one is not: whoever goes
through the text once from the left has to know no more than the depth of the brackets and the name
that is being read. So malformed brackets, empty arguments, stray spaces and reserved words can be
told at their places, however deep they are.

* `TypeReading`, `TypeReading.Step`, `TypeReading.Reads`: reading a type name from the left;
* `TypeReading.exists_reads_of_typeName`: every type name can be read in this way;
* `TypeLayout`: what follows for the places of a text, and `layout_of_reads`;
* `isTypeName_exact`: **the recogniser accepts exactly the texts of the grammar**, and none that
  breaks one of these rules at any depth.
-/

namespace QueryScaffold

namespace CodePoint

/-- A character of a qualified name: a word character or a point. -/
def isOfName (c : CodePoint) : Bool :=
  c.isWord || c = ofChar '.'

end CodePoint

/-! ## Reading from the left -/

/-- Where a reader of a type name is. -/
inductive TypePhase
  /-- A name is still to come. -/
  | due
  /-- In a name, of which this much was read. -/
  | name (start : Text)
  /-- Behind a name or a bracket. -/
  | ended

namespace TypePhase

/-- What was read may be a whole argument. -/
def IsWhole : TypePhase → Prop
  | .due => False
  | .name start => start ∈ predefinedTypes ∨ start.isQualifiedName = true
  | .ended => True

end TypePhase

/-- A reader of a type name, with the number of open brackets. -/
structure TypeReading where
  depth : Nat
  phase : TypePhase

namespace TypeReading

/-- The reader goes on by one character. Spaces and commas are within brackets, a bracket is opened
behind a qualified name, and whatever ends an argument stands behind a whole one. -/
inductive Step : TypeReading → CodePoint → TypeReading → Prop
  | space {depth : Nat} {c : CodePoint} : 0 < depth → c = CodePoint.ofChar ' ' →
      Step ⟨depth, .due⟩ c ⟨depth, .due⟩
  | start {depth : Nat} {c : CodePoint} : c.isOfName = true →
      Step ⟨depth, .due⟩ c ⟨depth, .name [c]⟩
  | letter {depth : Nat} {start : Text} {c : CodePoint} : c.isOfName = true →
      Step ⟨depth, .name start⟩ c ⟨depth, .name (start ++ [c])⟩
  | opening {depth : Nat} {start : Text} {c : CodePoint} : start.isQualifiedName = true →
      c = CodePoint.ofChar '<' → Step ⟨depth, .name start⟩ c ⟨depth + 1, .due⟩
  | ending {depth : Nat} {phase : TypePhase} {c : CodePoint} : phase.IsWhole → 0 < depth →
      c = CodePoint.ofChar ' ' → Step ⟨depth, phase⟩ c ⟨depth, .ended⟩
  | comma {depth : Nat} {phase : TypePhase} {c : CodePoint} : phase.IsWhole → 0 < depth →
      c = CodePoint.ofChar ',' → Step ⟨depth, phase⟩ c ⟨depth, .due⟩
  | closing {depth : Nat} {phase : TypePhase} {c : CodePoint} : phase.IsWhole →
      c = CodePoint.ofChar '>' → Step ⟨depth + 1, phase⟩ c ⟨depth, .ended⟩

/-- The reader goes through a text. -/
inductive Reads : TypeReading → Text → TypeReading → Prop
  | nil (s : TypeReading) : Reads s [] s
  | cons {s u v : TypeReading} {c : CodePoint} {rest : Text} : Step s c u → Reads u rest v →
      Reads s (c :: rest) v

section Reads

variable {s u v : TypeReading} {t before after : Text} {c : CodePoint} {depth : Nat}
  {phase : TypePhase}

theorem Reads.append (h : Reads s before u) (hafter : Reads u after v) :
    Reads s (before ++ after) v := by
  induction h with
  | nil => exact hafter
  | cons hstep _ ih => exact .cons hstep (ih hafter)

theorem Reads.single (h : Step s c u) : Reads s [c] u :=
  .cons h (.nil u)

/-- A reader of a whole text is somewhere at each place of it. -/
theorem Reads.exists_between (h : Reads s (before ++ after) v) :
    ∃ u, Reads s before u ∧ Reads u after v := by
  induction before generalizing s with
  | nil => exact ⟨s, .nil s, h⟩
  | cons c rest ih =>
    cases h with
    | cons hstep hrest =>
      obtain ⟨u, hbefore, hafter⟩ := ih hrest
      exact ⟨u, .cons hstep hbefore, hafter⟩

theorem Reads.exists_step (h : Reads s (before ++ c :: after) v) :
    ∃ u w, Reads s before u ∧ Step u c w ∧ Reads w after v := by
  obtain ⟨u, hbefore, hafter⟩ := h.exists_between
  cases hafter with
  | cons hstep hrest => exact ⟨u, _, hbefore, hstep, hrest⟩

end Reads

/-! ## Type names can be read -/

section Grammar

variable {s : TypeReading} {t : Text} {depth : Nat} {phase : TypePhase}

theorem Reads.name (h : ∀ c ∈ t, c.isOfName = true) (start : Text) :
    Reads ⟨depth, .name start⟩ t ⟨depth, .name (start ++ t)⟩ := by
  induction t generalizing start with
  | nil =>
    rw [List.append_nil]
    exact .nil _
  | cons c rest ih =>
    obtain ⟨hc, hrest⟩ := List.forall_mem_cons.1 h
    have hread := ih hrest (start ++ [c])
    rw [List.append_assoc, List.singleton_append] at hread
    exact .cons (.letter hc) hread

/-- A name is read where one is to come. -/
theorem Reads.due_name (hne : t ≠ []) (h : ∀ c ∈ t, c.isOfName = true) :
    Reads ⟨depth, .due⟩ t ⟨depth, .name t⟩ := by
  cases t with
  | nil => exact absurd rfl hne
  | cons c rest =>
    obtain ⟨hc, hrest⟩ := List.forall_mem_cons.1 h
    exact .cons (.start hc) (Reads.name hrest [c])

theorem Reads.due_spaces (hdepth : 0 < depth) (n : Nat) :
    Reads ⟨depth, .due⟩ (List.replicate n (CodePoint.ofChar ' ')) ⟨depth, .due⟩ := by
  induction n with
  | zero => exact .nil _
  | succ n ih =>
    rw [List.replicate_succ]
    exact .cons (.space hdepth rfl) ih

/-- Spaces may stand behind an argument. -/
theorem Reads.exists_spaces (hphase : phase.IsWhole) (hdepth : 0 < depth) (n : Nat) :
    ∃ last, last.IsWhole ∧
      Reads ⟨depth, phase⟩ (List.replicate n (CodePoint.ofChar ' ')) ⟨depth, last⟩ := by
  induction n generalizing phase with
  | zero => exact ⟨phase, hphase, .nil _⟩
  | succ n ih =>
    have hended : TypePhase.ended.IsWhole := trivial
    obtain ⟨last, hlast, hread⟩ := ih hended
    rw [List.replicate_succ]
    exact ⟨last, hlast, .cons (.ending hphase hdepth rfl) hread⟩

theorem isOfName_of_isWord {t : Text} (h : t.isWord = true) : ∀ c ∈ t, c.isOfName = true := by
  intro c hc
  rw [CodePoint.isOfName, Text.isWord_of_mem h hc]
  rfl

theorem isOfName_of_isQualifiedName {t : Text} (h : t.isQualifiedName = true) :
    ∀ c ∈ t, c.isOfName = true := by
  intro c hc
  rcases Text.eq_point_or_isWord_of_mem h hc with rfl | hw
  · decide
  · rw [CodePoint.isOfName, hw]
    rfl

/-- Arguments with commas between them are read where each of them is. -/
theorem exists_reads_joined {arguments : List PaddedArgument} (hne : arguments ≠ [])
    (hdepth : 0 < depth)
    (h : ∀ a ∈ arguments, ∃ phase : TypePhase, phase.IsWhole ∧
      Reads ⟨depth, .due⟩ a.argument ⟨depth, phase⟩) :
    ∃ phase : TypePhase, phase.IsWhole ∧
      Reads ⟨depth, .due⟩ (Text.joined ("," : Text) (arguments.map PaddedArgument.text))
        ⟨depth, phase⟩ := by
  induction arguments with
  | nil => exact absurd rfl hne
  | cons a rest ih =>
    obtain ⟨ha, hrest⟩ := List.forall_mem_cons.1 h
    obtain ⟨phase, hphase, hread⟩ := ha
    obtain ⟨last, hlast, hspaces⟩ := Reads.exists_spaces hphase hdepth a.after
    have hpadded : Reads ⟨depth, .due⟩ a.text ⟨depth, last⟩ :=
      ((Reads.due_spaces hdepth a.before).append hread).append hspaces
    cases rest with
    | nil => exact ⟨last, hlast, hpadded⟩
    | cons next rest =>
      obtain ⟨whole, hwhole, hothers⟩ := ih (by simp) hrest
      refine ⟨whole, hwhole, ?_⟩
      rw [List.map_cons, List.map_cons, Text.joined_cons_cons]
      exact (hpadded.append (.single (.comma hlast hdepth rfl))).append hothers

/-- **Every type name can be read** at any depth, and is whole then. -/
theorem exists_reads_of_typeName (h : TypeName t) (depth : Nat) :
    ∃ phase : TypePhase, phase.IsWhole ∧ Reads ⟨depth, .due⟩ t ⟨depth, phase⟩ := by
  induction h generalizing depth with
  | @predefined t hp =>
    have hword := Text.isWord_of_mem_predefinedTypes t hp
    exact ⟨.name t, .inl hp,
      .due_name (Text.ne_nil_of_isWord hword) (isOfName_of_isWord hword)⟩
  | @qualified t hq =>
    exact ⟨.name t, .inr hq,
      .due_name (Text.ne_nil_of_isQualifiedName hq) (isOfName_of_isQualifiedName hq)⟩
  | @generic head arguments hq hne _ ih =>
    obtain ⟨phase, hphase, harguments⟩ :=
      exists_reads_joined hne (Nat.succ_pos depth) fun a ha => ih a ha (depth + 1)
    have hhead : Reads ⟨depth, .due⟩ head ⟨depth, .name head⟩ :=
      .due_name (Text.ne_nil_of_isQualifiedName hq) (isOfName_of_isQualifiedName hq)
    exact ⟨.ended, trivial, ((hhead.append (.single (.opening hq rfl))).append harguments).append
      (.single (.closing hphase rfl))⟩

end Grammar

/-! ## What a reader has read -/

section History

variable {s u : TypeReading} {t before after : Text} {c : CodePoint}

theorem Step.bracketDepth_eq (h : Step s c u) : Text.bracketDepth s.depth c = u.depth := by
  have hname : ∀ c : CodePoint, c.isOfName = true → c ≠ CodePoint.ofChar '<' ∧
      c ≠ CodePoint.ofChar '>' := by
    intro c hc
    refine ⟨?_, ?_⟩ <;> rintro rfl <;> exact absurd hc (by decide)
  cases h with
  | start hc | letter hc => exact Text.bracketDepth_of_ne (hname c hc).1 (hname c hc).2
  | space _ hc | ending _ _ hc | comma _ _ hc =>
    rw [hc]
    exact Text.bracketDepth_of_ne (by decide) (by decide)
  | opening _ hc =>
    rw [hc]
    rfl
  | @closing depth _ _ _ hc =>
    rw [hc]
    show ((depth + 1 : Nat) : Int) - 1 = depth
    omega

/-- The reader knows the depth of the brackets. -/
theorem Reads.depthAfter_eq (h : Reads s t u) : Text.depthAfter s.depth t = u.depth := by
  induction h with
  | nil => rfl
  | cons hstep _ ih =>
    rw [← ih, ← hstep.bracketDepth_eq]
    rfl

/-- What was read up to a phase: a name that is being read stands at the end, with no character of a
name before it, and no name is being read in any other phase. -/
def Follows (before : Text) : TypePhase → Prop
  | .name start => start ≠ [] ∧ (∀ c ∈ start, c.isOfName = true) ∧
    ∃ front, before = front ++ start ∧ ∀ c ∈ front.getLast?, c.isOfName = false
  | _ => ∀ c ∈ before.getLast?, c.isOfName = false

theorem Step.follows (h : Step s c u) (hs : Follows before s.phase) :
    Follows (before ++ [c]) u.phase := by
  have hlast : c.isOfName = false → ∀ d ∈ (before ++ [c]).getLast?, d.isOfName = false := by
    intro hc d hd
    obtain rfl : c = d := by simpa using hd
    exact hc
  cases h with
  | space _ hc | opening _ hc | ending _ _ hc | comma _ _ hc | closing _ hc =>
    exact hlast (by rw [hc]; decide)
  | start hc => exact ⟨by simp, by simpa using hc, before, rfl, hs⟩
  | letter hc =>
    obtain ⟨-, hstart, front, rfl, hfront⟩ := hs
    refine ⟨by simp, List.forall_mem_append.2 ⟨hstart, ?_⟩, front, by simp, hfront⟩
    simpa using hc

/-- The induction is on the text that is still to be read. -/
theorem Reads.follows (h : Reads s t u) (hs : Follows before s.phase) :
    Follows (before ++ t) u.phase := by
  induction h generalizing before with
  | nil => rwa [List.append_nil]
  | cons hstep _ ih =>
    have hnext := ih (hstep.follows hs)
    rwa [List.append_assoc, List.singleton_append] at hnext

theorem Reads.follows_of_start {depth : Nat} (h : Reads ⟨depth, .due⟩ t u) :
    Follows t u.phase := by
  have hstart : Follows [] TypePhase.due := by simp [Follows]
  have hend := h.follows hstart
  rwa [List.nil_append] at hend

/-- A space changes nothing about what is to come, behind an argument as well as before one. -/
theorem Step.eq_of_space (h : Step s (CodePoint.ofChar ' ') u)
    (hs : s.phase = .due ∨ s.phase = .ended) : u = s := by
  cases h with
  | space => rfl
  | start hc => exact absurd hc (by decide)
  | letter => simp at hs
  | opening => simp at hs
  | ending hwhole =>
    rcases hs with rfl | rfl
    · exact hwhole.elim
    · rfl
  | comma _ _ hc => exact absurd hc (by decide)
  | closing _ hc => exact absurd hc (by decide)

theorem Reads.dropWhile (h : Reads s t u) (hs : s.phase = .due ∨ s.phase = .ended) :
    Reads s (t.dropWhile Text.isSpace) u := by
  induction t with
  | nil => exact h
  | cons c rest ih =>
    cases hc : Text.isSpace c with
    | false => rwa [List.dropWhile_cons_of_neg (by simp [hc])]
    | true =>
      obtain rfl := Text.eq_space_of_isSpace hc
      rw [List.dropWhile_cons_of_pos hc]
      cases h with
      | cons hstep hrest =>
        rw [hstep.eq_of_space hs] at hrest
        exact ih hrest

end History

end TypeReading

/-! ## Places in a type name -/

/-- A name that stands between two texts, which go on with other characters. -/
structure IsNameBetween (before name after : Text) : Prop where
  ne_nil : name ≠ []
  isOfName : ∀ c ∈ name, c.isOfName = true
  before : ∀ c ∈ before.getLast?, c.isOfName = false
  after : ∀ c ∈ after.head?, c.isOfName = false

/-- The rules for the places of a type name, however deep in its brackets they are. -/
structure TypeLayout (t : Text) : Prop where
  /-- There is no white space but the space, and no punctuation but points, brackets and commas. -/
  characters : ∀ c ∈ t, c.isWord = true ∨ c ∈ Text.typePunctuation
  /-- As many brackets are closed as are opened. -/
  closed : Text.depthAfter 0 t = 0
  /-- No bracket is closed before it is opened. -/
  nested : ∀ before after, t = before ++ after → 0 ≤ Text.depthAfter 0 before
  /-- Commas and spaces are within brackets. -/
  inside : ∀ before c after, t = before ++ c :: after →
    c = CodePoint.ofChar ',' ∨ c = CodePoint.ofChar ' ' → 0 < Text.depthAfter 0 before
  /-- A name is made of identifiers, none of which is reserved, unless it is a predefined type
  without arguments. -/
  names : ∀ before name after, t = before ++ name ++ after → IsNameBetween before name after →
    name.isQualifiedName = true ∨
      (name ∈ predefinedTypes ∧ after.head? ≠ some (CodePoint.ofChar '<'))
  /-- Brackets are opened right behind a name. -/
  opened : ∀ before after, t = before ++ CodePoint.ofChar '<' :: after →
    ∃ c, before.getLast? = some c ∧ c.isOfName = true
  /-- No argument is empty: behind an opening bracket or a comma, a name comes next. -/
  filled : ∀ before c after, t = before ++ c :: after →
    c = CodePoint.ofChar '<' ∨ c = CodePoint.ofChar ',' →
    ∃ d, (after.dropWhile Text.isSpace).head? = some d ∧ d.isOfName = true
  /-- An argument ends with its closing bracket or with a space behind its name: only a comma or
  another closing bracket may come next. -/
  ended : ∀ before c after d, t = before ++ c :: after →
    (c = CodePoint.ofChar '>' ∨
      c.isOfName = true ∧ after.head? = some (CodePoint.ofChar ' ')) →
    (after.dropWhile Text.isSpace).head? = some d →
    d = CodePoint.ofChar ',' ∨ d = CodePoint.ofChar '>'

namespace TypeReading

section Layout

variable {s u v : TypeReading} {t before name after : Text} {c d : CodePoint}

/-- Behind an opening bracket or a comma an argument is due. -/
theorem Step.phase_eq_due (h : Step s c u)
    (hc : c = CodePoint.ofChar '<' ∨ c = CodePoint.ofChar ',') : u.phase = .due := by
  cases h with
  | space | opening | comma => rfl
  | start hname | letter hname => rcases hc with rfl | rfl <;> exact absurd hname (by decide)
  | ending _ _ he | closing _ he =>
    rw [he] at hc
    exact absurd hc (by decide)

theorem Step.depth_pos (h : Step s c u)
    (hc : c = CodePoint.ofChar ',' ∨ c = CodePoint.ofChar ' ') : 0 < s.depth := by
  cases h with
  | space hdepth | ending _ hdepth | comma _ hdepth => exact hdepth
  | start hname | letter hname => rcases hc with rfl | rfl <;> exact absurd hname (by decide)
  | opening _ he | closing _ he =>
    rw [he] at hc
    exact absurd hc (by decide)

theorem Step.exists_name_of_opening (h : Step s (CodePoint.ofChar '<') u) :
    ∃ start, s.phase = .name start := by
  cases h with
  | @opening _ start | @letter _ start => exact ⟨start, rfl⟩
  | start hname => exact absurd hname (by decide)
  | space _ he | ending _ _ he | comma _ _ he | closing _ he => exact absurd he (by decide)

theorem Step.phase_eq_ended (h : Step s (CodePoint.ofChar '>') u) : u.phase = .ended := by
  cases h with
  | ending | closing => rfl
  | start hname | letter hname => exact absurd hname (by decide)
  | space _ he | opening _ he | comma _ _ he => exact absurd he (by decide)

/-- A character of a name goes on with a name. -/
theorem Step.phase_eq_name (h : Step s c u) (hc : c.isOfName = true) :
    (s.phase = .due ∧ u.phase = .name [c]) ∨
      ∃ start, s.phase = .name start ∧ u.phase = .name (start ++ [c]) := by
  cases h with
  | start => exact .inl ⟨rfl, rfl⟩
  | letter => exact .inr ⟨_, rfl, rfl⟩
  | space _ he | opening _ he | ending _ _ he | comma _ _ he | closing _ he =>
    rw [he] at hc
    exact absurd hc (by decide)

/-- A space behind a name ends it. -/
theorem Step.phase_eq_ended_of_name {start : Text} (h : Step s (CodePoint.ofChar ' ') u)
    (hs : s.phase = .name start) : u.phase = .ended := by
  cases h with
  | ending => rfl
  | space | start => cases hs
  | letter hname => exact absurd hname (by decide)
  | opening _ he | comma _ _ he | closing _ he => exact absurd he (by decide)

theorem Reads.phase_eq_name {start : Text} (h : Reads s t u) (hs : s.phase = .name start)
    (ht : ∀ c ∈ t, c.isOfName = true) : u.phase = .name (start ++ t) := by
  induction h generalizing start with
  | nil => rw [hs, List.append_nil]
  | @cons _ _ _ c rest hstep _ ih =>
    obtain ⟨hc, hrest⟩ := List.forall_mem_cons.1 ht
    obtain ⟨hdue, -⟩ | ⟨first, hfirst, hnext⟩ := hstep.phase_eq_name hc
    · simp [hs] at hdue
    · obtain rfl : start = first := by simpa [hs] using hfirst
      rw [ih hnext hrest, List.append_assoc, List.singleton_append]

/-- What stops a name that is being read: it is qualified, or it is whole and no bracket comes. -/
theorem Step.of_name (h : Step s c u) (hs : s.phase = .name name) (hc : c.isOfName = false) :
    name.isQualifiedName = true ∨ (name ∈ predefinedTypes ∧ c ≠ CodePoint.ofChar '<') := by
  have hwhole : ∀ phase : TypePhase, phase = .name name → phase.IsWhole →
      name ∈ predefinedTypes ∨ name.isQualifiedName = true := by
    rintro _ rfl h
    exact h
  cases h with
  | space | start => cases hs
  | letter hname => exact absurd (hname.symm.trans hc) (by decide)
  | opening hq =>
    cases hs
    exact .inl hq
  | ending hphase _ he | comma hphase _ he | closing hphase he =>
    rcases hwhole _ hs hphase with hp | hq
    · exact .inr ⟨hp, by rw [he]; decide⟩
    · exact .inl hq

theorem isSpace_eq_false_of_dropWhile {t rest : Text} {c : CodePoint}
    (h : t.dropWhile Text.isSpace = c :: rest) : Text.isSpace c = false := by
  have hhead := List.head?_dropWhile_not Text.isSpace t
  rw [h] at hhead
  simpa using hhead

/-- Where an argument is due, a name comes next. -/
theorem Reads.exists_of_due (h : Reads s t v) (hs : s.phase = .due) (hv : v.phase.IsWhole) :
    ∃ d, (t.dropWhile Text.isSpace).head? = some d ∧ d.isOfName = true := by
  have hread := h.dropWhile (.inl hs)
  cases hrest : t.dropWhile Text.isSpace with
  | nil =>
    rw [hrest] at hread
    cases hread
    rw [hs] at hv
    exact hv.elim
  | cons d rest =>
    refine ⟨d, rfl, ?_⟩
    have hspace := isSpace_eq_false_of_dropWhile hrest
    rw [hrest] at hread
    cases hread with
    | cons hstep _ =>
      cases hstep with
      | start hname => exact hname
      | space _ hc =>
        rw [hc, Text.isSpace_space] at hspace
        cases hspace
      | letter | opening => cases hs
      | ending hwhole | comma hwhole | closing hwhole =>
        simp only at hs
        rw [hs] at hwhole
        exact hwhole.elim

/-- Where an argument has ended, a comma or a closing bracket comes next, if anything does. -/
theorem Reads.eq_of_ended (h : Reads s t v) (hs : s.phase = .ended)
    (hd : (t.dropWhile Text.isSpace).head? = some d) :
    d = CodePoint.ofChar ',' ∨ d = CodePoint.ofChar '>' := by
  have hread := h.dropWhile (.inr hs)
  cases hrest : t.dropWhile Text.isSpace with
  | nil => simp [hrest] at hd
  | cons first rest =>
    obtain rfl : first = d := by simpa [hrest] using hd
    have hspace := isSpace_eq_false_of_dropWhile hrest
    rw [hrest] at hread
    cases hread with
    | cons hstep _ =>
      cases hstep with
      | comma _ _ hc => exact .inl hc
      | closing _ hc => exact .inr hc
      | space | start | letter | opening => cases hs
      | ending _ _ hc =>
        rw [hc, Text.isSpace_space] at hspace
        cases hspace

theorem Follows.getLast?_of_name {start : Text} {phase : TypePhase}
    (h : Follows before phase) (hphase : phase = .name start) :
    ∃ c, before.getLast? = some c ∧ c.isOfName = true := by
  subst hphase
  obtain ⟨hne, hstart, front, rfl, -⟩ := h
  refine ⟨start.getLast hne, ?_, hstart _ (List.getLast_mem hne)⟩
  rw [List.getLast?_append, List.getLast?_eq_some_getLast hne]
  rfl

/-- **A text that can be read keeps the rules** at each of its places. -/
theorem layout_of_reads {last : TypePhase} (h : Reads ⟨0, .due⟩ t ⟨0, last⟩) (hlast : last.IsWhole)
    (hcharacters : ∀ c ∈ t, c.isWord = true ∨ c ∈ Text.typePunctuation) : TypeLayout t where
  characters := hcharacters
  closed := h.depthAfter_eq
  nested := by
    rintro before after rfl
    obtain ⟨u, hbefore, -⟩ := h.exists_between
    rw [show (0 : Int) = ((0 : Nat) : Int) from rfl, hbefore.depthAfter_eq]
    omega
  inside := by
    rintro before c after rfl hc
    obtain ⟨u, w, hbefore, hstep, -⟩ := h.exists_step
    have hdepth := hstep.depth_pos hc
    rw [show Text.depthAfter 0 before = u.depth from hbefore.depthAfter_eq]
    omega
  names := by
    rintro before name after rfl ⟨hne, hname, hleft, hright⟩
    obtain ⟨u, hfront, hafter⟩ := h.exists_between
    obtain ⟨s, hbefore, hread⟩ := hfront.exists_between
    have hfollows := hbefore.follows_of_start
    cases name with
    | nil => exact absurd rfl hne
    | cons c rest =>
      obtain ⟨hc, hrest⟩ := List.forall_mem_cons.1 hname
      cases hread with
      | cons hstep hread =>
        obtain ⟨-, hphase⟩ | ⟨start, hphase, -⟩ := hstep.phase_eq_name hc
        · have hu := hread.phase_eq_name hphase hrest
          rw [List.singleton_append] at hu
          cases hafter with
          | nil =>
            simp only at hu
            rw [hu] at hlast
            rcases hlast with hp | hq
            · exact .inr ⟨hp, by simp⟩
            · exact .inl hq
          | cons hnext _ =>
            rcases hnext.of_name hu (hright _ rfl) with hq | ⟨hp, hd⟩
            · exact .inl hq
            · exact .inr ⟨hp, by simpa using hd⟩
        · obtain ⟨d, hd, hof⟩ := hfollows.getLast?_of_name hphase
          exact absurd ((hleft d hd).symm.trans hof) (by decide)
  opened := by
    rintro before after rfl
    obtain ⟨u, w, hbefore, hstep, -⟩ := h.exists_step
    obtain ⟨start, hphase⟩ := hstep.exists_name_of_opening
    exact hbefore.follows_of_start.getLast?_of_name hphase
  filled := by
    rintro before c after rfl hc
    obtain ⟨u, w, -, hstep, hafter⟩ := h.exists_step
    exact hafter.exists_of_due (hstep.phase_eq_due hc) hlast
  ended := by
    rintro before c after d rfl hc hd
    obtain ⟨u, w, -, hstep, hafter⟩ := h.exists_step
    rcases hc with rfl | ⟨hname, hhead⟩
    · exact hafter.eq_of_ended hstep.phase_eq_ended hd
    · cases hafter with
      | nil => simp at hhead
      | @cons _ x _ e rest hspace hrest =>
        obtain rfl : e = CodePoint.ofChar ' ' := by simpa using hhead
        have hended : x.phase = .ended := by
          rcases hstep.phase_eq_name hname with ⟨-, hw⟩ | ⟨_, -, hw⟩ <;>
            exact hspace.phase_eq_ended_of_name hw
        rw [List.dropWhile_cons_of_pos Text.isSpace_space] at hd
        exact hrest.eq_of_ended hended hd

end Layout

end TypeReading

theorem typeLayout_of_typeName {t : Text} (h : TypeName t) : TypeLayout t := by
  obtain ⟨last, hlast, hread⟩ := TypeReading.exists_reads_of_typeName h 0
  exact TypeReading.layout_of_reads hread hlast fun _ => Text.isWord_or_mem_of_typeName h

/-- **The recogniser accepts exactly the texts of the grammar**, where a name is one or more
identifiers with points between them. None of them breaks a rule for its brackets, commas, spaces
and names, however deep the place is. -/
theorem isTypeName_exact (t : Text) :
    (t.isTypeName = true ↔ TypeName t) ∧
    (∀ name : Text, name.isQualifiedName = true ↔ Text.IsQualifiedName name) ∧
    (∀ word : Text, word.isIdentifier = true ↔
      ∃ first rest, word = first :: rest ∧ first.isWordStart = true ∧
        (∀ c ∈ rest, c.isWord = true) ∧ word ∉ keywords) ∧
    (t.isTypeName = true → TypeLayout t) := by
  refine ⟨Text.isTypeName_iff, fun _ => Text.isQualifiedName_iff, fun word => ?_,
    fun h => typeLayout_of_typeName (Text.isTypeName_iff.1 h)⟩
  rw [Text.isIdentifier_iff]
  cases word with
  | nil => simp [Text.isWord]
  | cons c rest => simp [Text.isWord_cons, and_assoc]

namespace Sample

/-- A type name whose second argument has an argument of its own. -/
def dictionaryName : Text := "IDictionary<string, List<Shop.Models.Order>>"

theorem typeName_dictionaryName : TypeName dictionaryName := by
  have horder : TypeName "Shop.Models.Order" := .qualified (by decide)
  have hlist : TypeName "List<Shop.Models.Order>" :=
    @TypeName.generic "List" [⟨0, "Shop.Models.Order", 0⟩] (by decide) (by simp)
      (by simpa using horder)
  have hstring : TypeName "string" := .predefined (by decide)
  exact @TypeName.generic "IDictionary" [⟨0, "string", 0⟩, ⟨1, "List<Shop.Models.Order>", 0⟩]
    (by decide) (by simp) (by simpa using ⟨hstring, hlist⟩)

end Sample

/-- Arguments within arguments keep the rules as well. -/
theorem isTypeName_exact_dictionaryName :
    Sample.dictionaryName.isTypeName = true ∧ TypeLayout Sample.dictionaryName := by
  obtain ⟨hgrammar, -, -, hlayout⟩ := isTypeName_exact Sample.dictionaryName
  have hname := hgrammar.2 Sample.typeName_dictionaryName
  exact ⟨hname, hlayout hname⟩

end QueryScaffold
