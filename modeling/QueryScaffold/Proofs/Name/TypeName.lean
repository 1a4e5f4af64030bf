import QueryScaffold.Proofs.Name.Brackets
import QueryScaffold.Proofs.Name.Identifier

/-!
# The recogniser of type names agrees with their grammar

`Text.isTypeName` cuts at the first opening bracket and splits what the brackets enclose;
`TypeName` says which texts there are. The two agree because a type name is closed at every depth
that is not negative, so that its own commas never split the list that it stands in, and because it
neither starts nor ends with a space, so that trimming an argument gives back what was padded.

* `closed_of_typeName`, `trim_paddedArgument`: the two facts above;
* `isTypeName_iff`: **the recogniser accepts exactly the type names**;
* `IsTypeList`: what may stand between the brackets, and `typeName_generic_iff`;
* `notMem_of_typeName`: what cannot stand in a type name.
-/

namespace QueryScaffold

/-! ## Padding -/

namespace PaddedArgument

/-- The padding and the argument that a text is made of. -/
def ofText (t : Text) : PaddedArgument :=
  { before := (t.takeWhile Text.isSpace).length
    argument := t.trim Text.isSpace
    after := ((t.dropWhile Text.isSpace).reverse.takeWhile Text.isSpace).length }

end PaddedArgument

namespace Text

theorem eq_space_of_isSpace {c : CodePoint} (h : isSpace c = true) : c = CodePoint.ofChar ' ' := by
  simpa [isSpace] using h

theorem isSpace_space : isSpace (CodePoint.ofChar ' ') = true := by decide

theorem takeWhile_isSpace (t : Text) :
    t.takeWhile isSpace =
      List.replicate (t.takeWhile isSpace).length (CodePoint.ofChar ' ') := by
  rw [List.eq_replicate_iff]
  refine ⟨rfl, fun c hc => ?_⟩
  exact eq_space_of_isSpace (List.all_eq_true.1 List.all_takeWhile c hc)

/-- Every text is an argument with spaces around it. -/
theorem text_ofText (t : Text) : (PaddedArgument.ofText t).text = t := by
  have hback : t.trim isSpace ++ List.replicate (PaddedArgument.ofText t).after
      (CodePoint.ofChar ' ') = t.dropWhile isSpace := by
    have h := List.takeWhile_append_dropWhile (p := isSpace) (l := (t.dropWhile isSpace).reverse)
    rw [takeWhile_isSpace] at h
    have hr := congrArg List.reverse h
    rw [List.reverse_append, List.reverse_reverse, List.reverse_replicate] at hr
    exact hr
  have hfront : List.replicate (PaddedArgument.ofText t).before (CodePoint.ofChar ' ') =
      t.takeWhile isSpace := (takeWhile_isSpace t).symm
  show _ ++ t.trim isSpace ++ _ = t
  rw [List.append_assoc, hback, hfront]
  exact List.takeWhile_append_dropWhile

theorem dropWhile_replicate_append (n : Nat) (t : Text) :
    (List.replicate n (CodePoint.ofChar ' ') ++ t).dropWhile isSpace = t.dropWhile isSpace := by
  refine List.dropWhile_append_of_pos fun c hc => ?_
  rw [List.eq_of_mem_replicate hc]
  exact isSpace_space

/-- A text that does not start with a space, with anything behind it. -/
theorem dropWhile_append_of_head? {t : Text} {c : CodePoint} (hc : t.head? = some c)
    (hs : isSpace c = false) (rest : Text) : (t ++ rest).dropWhile isSpace = t ++ rest := by
  cases t with
  | nil => simp at hc
  | cons d tail =>
    obtain rfl : d = c := by simpa using hc
    rw [List.cons_append, List.dropWhile_cons_of_neg (by simp [hs])]

/-- **Trimming takes padding away** from a text whose first and last code points are no spaces. -/
theorem trim_text {a : PaddedArgument} {first last : CodePoint} (hf : a.argument.head? = some first)
    (hfs : isSpace first = false) (hl : a.argument.getLast? = some last)
    (hls : isSpace last = false) : a.text.trim isSpace = a.argument := by
  have hrev : a.argument.reverse.head? = some last := by rw [List.head?_reverse, hl]
  have hmiddle := dropWhile_append_of_head? hrev hls []
  rw [List.append_nil] at hmiddle
  rw [trim, PaddedArgument.text, List.append_assoc, dropWhile_replicate_append,
    dropWhile_append_of_head? hf hfs, List.reverse_append, List.reverse_replicate,
    dropWhile_replicate_append, hmiddle, List.reverse_reverse]

/-! ## What a type name is made of -/

/-- The code points of a type name that are not word characters. -/
def typePunctuation : Text := ".<>, "

theorem eq_space_or_mem_of_mem_text {a : PaddedArgument} {c : CodePoint} (h : c ∈ a.text) :
    c = CodePoint.ofChar ' ' ∨ c ∈ a.argument := by
  rw [PaddedArgument.text, List.mem_append, List.mem_append] at h
  rcases h with (h | h) | h
  · exact .inl (List.eq_of_mem_replicate h)
  · exact .inr h
  · exact .inl (List.eq_of_mem_replicate h)

theorem isWord_of_mem_predefinedTypes : ∀ t ∈ predefinedTypes, t.isWord = true := by
  decide

theorem isWord_or_mem_of_typeName {t : Text} (h : TypeName t) {c : CodePoint} (hc : c ∈ t) :
    c.isWord = true ∨ c ∈ typePunctuation := by
  induction h with
  | predefined hp => exact .inl (isWord_of_mem (isWord_of_mem_predefinedTypes _ hp) hc)
  | qualified hq =>
    rcases eq_point_or_isWord_of_mem hq hc with rfl | hw
    · exact .inr (by decide)
    · exact .inl hw
  | @generic head arguments hq _ _ ih =>
    rw [List.mem_append, List.mem_append, List.mem_append] at hc
    rcases hc with ((hc | hc) | hc) | hc
    · rcases eq_point_or_isWord_of_mem hq hc with rfl | hw
      · exact .inr (by decide)
      · exact .inl hw
    · obtain rfl : c = CodePoint.ofChar '<' := by simpa [Text.ofString] using hc
      exact .inr (by decide)
    · rcases mem_joined hc with hc | ⟨part, hp, hc⟩
      · obtain rfl : c = CodePoint.ofChar ',' := by simpa [Text.ofString] using hc
        exact .inr (by decide)
      · obtain ⟨a, ha, rfl⟩ := List.mem_map.1 hp
        rcases eq_space_or_mem_of_mem_text hc with rfl | hc
        · exact .inr (by decide)
        · exact ih a ha hc
    · obtain rfl : c = CodePoint.ofChar '>' := by simpa [Text.ofString] using hc
      exact .inr (by decide)

theorem notMem_of_typeName {t : Text} (h : TypeName t) {c : CodePoint} (hw : c.isWord = false)
    (hp : c ∉ typePunctuation) : c ∉ t := by
  intro hc
  rcases isWord_or_mem_of_typeName h hc with hc | hc
  · rw [hc] at hw
    exact absurd hw (by decide)
  · exact hp hc

/-! ## Type names are closed and not padded -/

theorem closed_of_isWord (depth : Int) {t : Text} (h : t.isWord = true) : Closed depth t := by
  have hm : ∀ c : CodePoint, c.isWord = false → c ∉ t := by
    intro c hc hm
    rw [isWord_of_mem h hm] at hc
    exact absurd hc (by decide)
  exact Closed.of_plain depth (hm _ (by decide)) (hm _ (by decide)) (hm _ (by decide))

theorem closed_of_isQualifiedName (depth : Int) {t : Text} (h : t.isQualifiedName = true) :
    Closed depth t :=
  Closed.of_plain depth (notMem_of_isQualifiedName h (by decide) (by decide))
    (notMem_of_isQualifiedName h (by decide) (by decide))
    (notMem_of_isQualifiedName h (by decide) (by decide))

theorem closed_replicate_space (depth : Int) (n : Nat) :
    Closed depth (List.replicate n (CodePoint.ofChar ' ')) := by
  have hm : ∀ c : CodePoint, c ≠ CodePoint.ofChar ' ' →
      c ∉ List.replicate n (CodePoint.ofChar ' ') :=
    fun c hc hm => hc (List.eq_of_mem_replicate hm)
  exact Closed.of_plain depth (hm _ (by decide)) (hm _ (by decide)) (hm _ (by decide))

theorem closed_text {depth : Int} {a : PaddedArgument} (h : Closed depth a.argument) :
    Closed depth a.text :=
  ((closed_replicate_space depth a.before).append h).append (closed_replicate_space depth a.after)

/-- **A type name is closed** at every depth that is not negative: its own commas stand further in
than the depth that it is read at. -/
theorem closed_of_typeName {t : Text} (h : TypeName t) {depth : Int} (hd : 0 ≤ depth) :
    Closed depth t := by
  induction h generalizing depth with
  | predefined hp => exact closed_of_isWord depth (isWord_of_mem_predefinedTypes _ hp)
  | qualified hq => exact closed_of_isQualifiedName depth hq
  | @generic head arguments hq _ _ ih =>
    have hinner : Closed (depth + 1) (joined ("," : Text) (arguments.map PaddedArgument.text)) := by
      refine Closed.joined (by omega) fun part hp => ?_
      obtain ⟨a, ha, rfl⟩ := List.mem_map.1 hp
      exact closed_text (ih a ha (by omega))
    have hbrackets := (closed_of_isQualifiedName depth hq).append hinner.brackets
    rw [List.append_assoc, List.append_assoc]
    rwa [List.append_assoc] at hbrackets

theorem isSpace_eq_false_of_ne {c : CodePoint} (h : c ≠ CodePoint.ofChar ' ') :
    isSpace c = false := by
  simp [isSpace, h]

theorem exists_ends {t : Text} (hne : t ≠ []) (hs : CodePoint.ofChar ' ' ∉ t) :
    (∃ c, t.head? = some c ∧ isSpace c = false) ∧ ∃ c, t.getLast? = some c ∧ isSpace c = false := by
  have hc : ∀ c ∈ t, isSpace c = false := by
    intro c hc
    refine isSpace_eq_false_of_ne ?_
    rintro rfl
    exact hs hc
  exact ⟨⟨t.head hne, List.head?_eq_some_head hne, hc _ (List.head_mem hne)⟩,
    ⟨t.getLast hne, List.getLast?_eq_some_getLast hne, hc _ (List.getLast_mem hne)⟩⟩

/-- A type name neither starts nor ends with a space. -/
theorem exists_ends_of_typeName {t : Text} (h : TypeName t) :
    (∃ c, t.head? = some c ∧ isSpace c = false) ∧ ∃ c, t.getLast? = some c ∧ isSpace c = false := by
  cases h with
  | predefined hp =>
    have hw := isWord_of_mem_predefinedTypes _ hp
    refine exists_ends (ne_nil_of_isWord hw) fun hm => ?_
    exact absurd (isWord_of_mem hw hm) (by decide)
  | qualified hq =>
    exact exists_ends (ne_nil_of_isQualifiedName hq)
      (notMem_of_isQualifiedName hq (by decide) (by decide))
  | @generic head arguments hq _ _ =>
    obtain ⟨⟨c, hc, hs⟩, -⟩ := exists_ends (ne_nil_of_isQualifiedName hq)
      (notMem_of_isQualifiedName hq (c := CodePoint.ofChar ' ') (by decide) (by decide))
    refine ⟨⟨c, ?_, hs⟩, ⟨CodePoint.ofChar '>', List.getLast?_concat, by decide⟩⟩
    rw [List.append_assoc, List.append_assoc, List.head?_append, hc]
    rfl

theorem trim_paddedArgument {a : PaddedArgument} (h : TypeName a.argument) :
    a.text.trim isSpace = a.argument := by
  obtain ⟨⟨first, hf, hfs⟩, ⟨last, hl, hls⟩⟩ := exists_ends_of_typeName h
  exact trim_text hf hfs hl hls

/-! ## The recogniser -/

theorem isTypeName_of_notMem {t : Text} (h : CodePoint.ofChar '<' ∉ t) :
    t.isTypeName = (predefinedTypes.contains t || t.isQualifiedName) := by
  rw [isTypeName]
  split
  · rfl
  · next head rest hc =>
    rw [cut?_eq_none_iff.2 h] at hc
    cases hc

theorem isTypeName_append_cons {head : Text} (h : CodePoint.ofChar '<' ∉ head) (rest : Text) :
    (head ++ CodePoint.ofChar '<' :: rest).isTypeName =
      (rest.getLast? == some (CodePoint.ofChar '>') && head.isQualifiedName &&
        (splitArguments rest.dropLast).all fun a => (a.trim isSpace).isTypeName) := by
  have hcut := cut?_append_cons h rest
  rw [isTypeName]
  split
  · next hc =>
    rw [hcut] at hc
    cases hc
  · next hc =>
    rw [hcut] at hc
    obtain ⟨rfl, rfl⟩ := Prod.mk.inj (Option.some.inj hc)
    simp

/-- What may stand between the brackets of a type name: one or more type names with commas between
them and spaces around them. -/
def IsTypeList (t : Text) : Prop :=
  ∃ arguments : List PaddedArgument, arguments ≠ [] ∧ (∀ a ∈ arguments, TypeName a.argument) ∧
    t = joined ("," : Text) (arguments.map PaddedArgument.text)

theorem isTypeList_of_typeName {t : Text} (h : TypeName t) : IsTypeList t := by
  refine ⟨[⟨0, t, 0⟩], by simp, by simpa using h, ?_⟩
  simp [PaddedArgument.text]

/-- A list of type names is split where its parts were joined. -/
theorem splitArguments_joined_text {arguments : List PaddedArgument} (hne : arguments ≠ [])
    (ha : ∀ a ∈ arguments, TypeName a.argument) :
    splitArguments (joined ("," : Text) (arguments.map PaddedArgument.text)) =
      arguments.map PaddedArgument.text := by
  refine splitArguments_joined (by simpa using hne) fun part hp => ?_
  obtain ⟨a, hm, rfl⟩ := List.mem_map.1 hp
  exact closed_text (closed_of_typeName (ha a hm) (by omega))

/-- The arguments are the parts between the commas outside brackets, without their padding. -/
theorem isTypeList_iff {t : Text} :
    IsTypeList t ↔ ∀ part ∈ splitArguments t, TypeName (part.trim isSpace) := by
  constructor
  · rintro ⟨arguments, hne, ha, rfl⟩ part hp
    rw [splitArguments_joined_text hne ha] at hp
    obtain ⟨a, hm, rfl⟩ := List.mem_map.1 hp
    rw [trim_paddedArgument (ha a hm)]
    exact ha a hm
  · intro h
    refine ⟨(splitArguments t).map PaddedArgument.ofText, ?_, ?_, ?_⟩
    · rw [ne_eq, List.map_eq_nil_iff]
      exact splitArgumentsFrom_ne_nil 0 t
    · intro a ha
      obtain ⟨part, hp, rfl⟩ := List.mem_map.1 ha
      exact h part hp
    · have htext : PaddedArgument.text ∘ PaddedArgument.ofText = id := funext text_ofText
      rw [List.map_map, htext, List.map_id, joined_splitArguments]

theorem typeName_of_isTypeList {head t : Text} (hq : head.isQualifiedName = true)
    (h : IsTypeList t) : TypeName (head ++ ("<" : Text) ++ t ++ (">" : Text)) := by
  obtain ⟨arguments, hne, ha, rfl⟩ := h
  exact TypeName.generic hq hne ha

/-- What the recogniser accepts is derivable. The recursion is on the length: an argument is shorter
than the text that it stands in. -/
theorem typeName_of_isTypeName {t : Text} (h : t.isTypeName = true) : TypeName t := by
  induction hn : t.length using Nat.strongRecOn generalizing t with
  | ind n ih =>
    cases hc : cut? (CodePoint.ofChar '<') t with
    | none =>
      rw [isTypeName_of_notMem (cut?_eq_none_iff.1 hc), Bool.or_eq_true] at h
      rcases h with h | h
      · exact .predefined (by simpa using h)
      · exact .qualified h
    | some pair =>
      obtain ⟨head, rest⟩ := pair
      obtain ⟨rfl, hhead⟩ := eq_append_of_cut? hc
      rw [isTypeName_append_cons hhead, Bool.and_eq_true, Bool.and_eq_true, List.all_eq_true] at h
      obtain ⟨⟨hlast, hq⟩, hparts⟩ := h
      obtain ⟨inner, rfl⟩ := List.getLast?_eq_some_iff.1 (eq_of_beq hlast)
      have hinner : IsTypeList inner := by
        refine isTypeList_iff.2 fun part hp => ?_
        have hp' : part ∈ splitArguments (inner ++ [CodePoint.ofChar '>']).dropLast := by
          rwa [List.dropLast_concat]
        exact ih _ (hn ▸ length_argument_lt hc hp') (hparts part hp') rfl
      have hname := typeName_of_isTypeList hq hinner
      rwa [List.append_assoc, List.append_assoc] at hname

/-- What is derivable is accepted. -/
theorem isTypeName_of_typeName {t : Text} (h : TypeName t) : t.isTypeName = true := by
  induction h with
  | predefined hp =>
    have hm : CodePoint.ofChar '<' ∉ _ := fun hm =>
      absurd (isWord_of_mem (isWord_of_mem_predefinedTypes _ hp) hm) (by decide)
    rw [isTypeName_of_notMem hm, Bool.or_eq_true]
    exact .inl (by simpa using hp)
  | qualified hq =>
    rw [isTypeName_of_notMem (notMem_of_isQualifiedName hq (by decide) (by decide)),
      Bool.or_eq_true]
    exact .inr hq
  | @generic head arguments hq hne ha ih =>
    have hhead : CodePoint.ofChar '<' ∉ head :=
      notMem_of_isQualifiedName hq (by decide) (by decide)
    rw [List.append_assoc, List.append_assoc]
    show (head ++ CodePoint.ofChar '<' :: (_ ++ [CodePoint.ofChar '>'])).isTypeName = true
    rw [isTypeName_append_cons hhead, List.getLast?_concat, List.dropLast_concat, hq,
      splitArguments_joined_text hne ha, Bool.and_eq_true, List.all_eq_true]
    refine ⟨by simp, fun part hp => ?_⟩
    obtain ⟨a, hm, rfl⟩ := List.mem_map.1 hp
    rw [trim_paddedArgument (ha a hm)]
    exact ih a hm

/-- **The recogniser accepts exactly the type names.** -/
theorem isTypeName_iff {t : Text} : t.isTypeName = true ↔ TypeName t :=
  ⟨typeName_of_isTypeName, isTypeName_of_typeName⟩

/-- Behind a qualified name, brackets make a type name exactly of a list of type names. -/
theorem typeName_generic_iff {head t : Text} (hq : head.isQualifiedName = true) :
    TypeName (head ++ ("<" : Text) ++ t ++ (">" : Text)) ↔ IsTypeList t := by
  refine ⟨fun h => ?_, typeName_of_isTypeList hq⟩
  have hhead : CodePoint.ofChar '<' ∉ head := notMem_of_isQualifiedName hq (by decide) (by decide)
  have hname := isTypeName_of_typeName h
  rw [List.append_assoc, List.append_assoc] at hname
  have hsplit : (head ++ CodePoint.ofChar '<' :: (t ++ [CodePoint.ofChar '>'])).isTypeName = true :=
    hname
  rw [isTypeName_append_cons hhead, List.dropLast_concat, Bool.and_eq_true, List.all_eq_true]
    at hsplit
  exact isTypeList_iff.2 fun part hp => typeName_of_isTypeName (hsplit.2 part hp)

end Text

end QueryScaffold
