import QueryScaffold.Proofs.Source.Lines

/-!
# What a single line gives away

Each line of a rendered file is a fixed text around the names that it shows. Here two lines of one
kind are compared: if they are equal, so are the names, because the text that follows a name starts
with a code point that the name cannot hold. Where a type stands before a name the division is at
the last space, since a type may hold spaces and a name may not.

* `QueryMethod.eq_of_headLine_eq`, `eq_of_contextLine_eq`, `eq_of_returnLine_eq`: the lines of a
  method;
* `QueryClass.eq_of_headLine_eq`, `eq_of_fieldLine_eq`: the lines of the class;
* `QueryClass.eq_of_constructorLine_eq`: **the list of parameters**, which is divided at its commas
  outside brackets, as no type name has a comma there.
-/

namespace QueryScaffold

namespace Text

/-! ## Names with a fixed text behind them -/

/-- The fixed text starts with a code point that neither name holds. -/
theorem append_fixed_inj {c : CodePoint} {fixed s t u v : Text} (hc : fixed.head? = some c)
    (hs : c ∉ s) (ht : c ∉ t) (h : s ++ (fixed ++ u) = t ++ (fixed ++ v)) : s = t ∧ u = v := by
  cases fixed with
  | nil => simp at hc
  | cons d rest =>
    obtain rfl : d = c := by simpa using hc
    obtain ⟨hst, huv⟩ := append_cons_inj hs ht h
    exact ⟨hst, List.append_cancel_left huv⟩

/-- The last space divides. -/
theorem append_space_inj {s t u v : Text} (hu : CodePoint.ofChar ' ' ∉ u)
    (hv : CodePoint.ofChar ' ' ∉ v) (h : s ++ ((" " : Text) ++ u) = t ++ ((" " : Text) ++ v)) :
    s = t ∧ u = v :=
  append_cons_inj_right hu hv h

theorem space_notMem_of_isIdentifier {t : Text} (h : t.isIdentifier = true) :
    CodePoint.ofChar ' ' ∉ t :=
  notMem_of_isIdentifier h (by decide)

end Text

/-! ## Lines of a method -/

namespace QueryMethod

theorem annotationLine_injective : Function.Injective annotationLine := by
  intro a b h
  rw [annotationLine, annotationLine, List.append_assoc, List.append_assoc] at h
  exact List.append_cancel_right (List.append_cancel_left h)

theorem eq_of_headLine_eq {m n : QueryMethod} (hm : m.name.isIdentifier = true)
    (hn : n.name.isIdentifier = true) (h : m.headLine = n.headLine) :
    m.returnType = n.returnType ∧ m.name = n.name := by
  rw [headLine, headLine] at h
  have hcore := List.append_cancel_right h
  rw [List.append_assoc, List.append_assoc, List.append_assoc, List.append_assoc] at hcore
  exact Text.append_space_inj (Text.space_notMem_of_isIdentifier hm)
    (Text.space_notMem_of_isIdentifier hn) (List.append_cancel_left hcore)

theorem eq_of_contextLine_eq {m n : QueryMethod} (hm : m.body.contextVariable.isIdentifier = true)
    (hn : n.body.contextVariable.isIdentifier = true) (h : m.contextLine = n.contextLine) :
    m.body.contextVariable = n.body.contextVariable ∧
      m.body.factoryField = n.body.factoryField := by
  rw [contextLine, contextLine] at h
  have hcore := List.append_cancel_right h
  rw [List.append_assoc, List.append_assoc, List.append_assoc, List.append_assoc] at hcore
  exact Text.append_fixed_inj rfl (Text.space_notMem_of_isIdentifier hm)
    (Text.space_notMem_of_isIdentifier hn) (List.append_cancel_left hcore)

theorem eq_of_returnLine_eq {m n : QueryMethod} (hm : m.WellFormed) (hn : n.WellFormed)
    (h : m.returnLine = n.returnLine) :
    m.body.helperName = n.body.helperName ∧ m.body.accessorName = n.body.accessorName := by
  have hbracket : ∀ t : Text, t.isIdentifier = true → CodePoint.ofChar '(' ∉ t :=
    fun t ht => Text.notMem_of_isIdentifier ht (by decide)
  have hpoint : ∀ t : Text, t.isIdentifier = true → CodePoint.ofChar '.' ∉ t :=
    fun t ht => Text.notMem_of_isIdentifier ht (by decide)
  rw [returnLine, returnLine] at h
  have hcore := List.append_cancel_right h
  simp only [List.append_assoc] at hcore
  obtain ⟨hhelper, hrest⟩ := Text.append_fixed_inj rfl (hbracket _ hm.helperName)
    (hbracket _ hn.helperName) (List.append_cancel_left hcore)
  exact ⟨hhelper, (Text.append_fixed_inj rfl (hpoint _ hm.contextVariable)
    (hpoint _ hn.contextVariable) hrest).2⟩

end QueryMethod

/-! ## Lines of the class -/

namespace Variable

theorem eq_of_declaration_eq {v w : Variable} (hv : v.identifier.isIdentifier = true)
    (hw : w.identifier.isIdentifier = true) (h : v.declaration = w.declaration) : v = w := by
  rw [declaration, declaration, List.append_assoc, List.append_assoc] at h
  obtain ⟨htype, hname⟩ := Text.append_space_inj (Text.space_notMem_of_isIdentifier hv)
    (Text.space_notMem_of_isIdentifier hw) h
  cases v
  cases w
  rw [Variable.mk.injEq]
  exact ⟨htype, hname⟩

theorem closed_declaration {v : Variable} (ht : TypeName v.type)
    (hi : v.identifier.isIdentifier = true) : Text.Closed 0 v.declaration := by
  have hspace : Text.Closed 0 (" " : Text) := Text.closed_replicate_space 0 1
  exact ((Text.closed_of_typeName ht (by omega)).append hspace).append
    (Text.closed_of_isWord 0 (Text.isWord_of_isIdentifier hi))

end Variable

namespace Text

/-- A comma with a space is a comma before a part that starts with a space. -/
theorem joined_comma_space (part : Text) (rest : List Text) :
    joined (", " : Text) (part :: rest) =
      joined ("," : Text) (part :: rest.map fun t => (" " : Text) ++ t) := by
  induction rest generalizing part with
  | nil => rfl
  | cons next rest ih =>
    have hspace : joined ("," : Text) (((" " : Text) ++ next) ::
        rest.map fun t => (" " : Text) ++ t) =
        (" " : Text) ++ joined ("," : Text) (next :: rest.map fun t => (" " : Text) ++ t) := by
      cases rest <;> rfl
    have hcomma : (", " : Text) = ("," : Text) ++ (" " : Text) := rfl
    rw [List.map_cons, joined_cons_cons, joined_cons_cons, ih, hspace, hcomma]
    simp only [List.append_assoc]

/-- **Closed parts can be read back** from their list with commas and spaces. -/
theorem eq_of_joined_comma_space_eq {parts others : List Text} (hp : parts ≠ []) (ho : others ≠ [])
    (hpc : ∀ part ∈ parts, Closed 0 part) (hoc : ∀ part ∈ others, Closed 0 part)
    (h : joined (", " : Text) parts = joined (", " : Text) others) : parts = others := by
  have hsplit : ∀ {part : Text} {rest : List Text}, (∀ p ∈ part :: rest, Closed 0 p) →
      splitArguments (joined (", " : Text) (part :: rest)) =
        part :: rest.map fun t => (" " : Text) ++ t := by
    intro part rest hc
    rw [joined_comma_space]
    refine splitArguments_joined (by simp) ?_
    rw [List.forall_mem_cons, List.forall_mem_map]
    refine ⟨hc part (by simp), fun t ht => ?_⟩
    exact (closed_replicate_space 0 1).append (hc t (List.mem_cons_of_mem _ ht))
  cases parts with
  | nil => exact absurd rfl hp
  | cons part rest =>
    cases others with
    | nil => exact absurd rfl ho
    | cons other more =>
      have hlist := congrArg splitArguments h
      rw [hsplit hpc, hsplit hoc] at hlist
      obtain ⟨hfirst, hmap⟩ := List.cons.inj hlist
      have hrest := (List.map_inj_right fun s t hst => List.append_cancel_left hst).1 hmap
      rw [hfirst, hrest]

end Text

namespace QueryClass

theorem eq_of_headLine_eq {c d : QueryClass} (hc : c.typeName.isIdentifier = true)
    (hd : d.typeName.isIdentifier = true) (h : c.headLine = d.headLine) :
    c.typeName = d.typeName ∧ c.baseTypeName = d.baseTypeName := by
  simp only [headLine, List.append_assoc] at h
  exact Text.append_fixed_inj rfl (Text.space_notMem_of_isIdentifier hc)
    (Text.space_notMem_of_isIdentifier hd) (List.append_cancel_left h)

theorem eq_of_fieldLine_eq {c d : QueryClass} (hc : c.factoryField.identifier.isIdentifier = true)
    (hd : d.factoryField.identifier.isIdentifier = true) (h : c.fieldLine = d.fieldLine) :
    c.factoryField = d.factoryField := by
  rw [fieldLine, fieldLine] at h
  exact Variable.eq_of_declaration_eq hc hd
    (List.append_cancel_left (List.append_cancel_right h))

end QueryClass

/-- Lists of variables with equal declarations are equal. -/
theorem Variable.eq_of_map_declaration_eq {vs ws : List Variable}
    (hv : ∀ v ∈ vs, v.identifier.isIdentifier = true)
    (hw : ∀ w ∈ ws, w.identifier.isIdentifier = true)
    (h : vs.map Variable.declaration = ws.map Variable.declaration) : vs = ws := by
  induction vs generalizing ws with
  | nil => simpa using h.symm
  | cons v vs ih =>
    cases ws with
    | nil => simp at h
    | cons w ws =>
      obtain ⟨hfirst, hrest⟩ := List.cons.inj h
      rw [Variable.eq_of_declaration_eq (hv v (by simp)) (hw w (by simp)) hfirst,
        ih (fun x hx => hv x (List.mem_cons_of_mem _ hx))
          (fun x hx => hw x (List.mem_cons_of_mem _ hx)) hrest]

/-- **The line of the constructor shows its parameters.** -/
theorem QueryClass.eq_of_constructorLine_eq {c d : QueryClass} (ht : c.typeName = d.typeName)
    (hc : c.parameters ≠ []) (hd : d.parameters ≠ [])
    (hcp : ∀ p ∈ c.parameters, TypeName p.type ∧ p.identifier.isIdentifier = true)
    (hdp : ∀ p ∈ d.parameters, TypeName p.type ∧ p.identifier.isIdentifier = true)
    (h : c.constructorLine = d.constructorLine) : c.parameters = d.parameters := by
  have hclosed : ∀ {ps : List Variable},
      (∀ p ∈ ps, TypeName p.type ∧ p.identifier.isIdentifier = true) →
      ∀ part ∈ ps.map Variable.declaration, Text.Closed 0 part := by
    intro ps hps part hm
    obtain ⟨p, hp, rfl⟩ := List.mem_map.1 hm
    exact Variable.closed_declaration (hps p hp).1 (hps p hp).2
  rw [constructorLine, constructorLine, ht] at h
  have hjoined := List.append_cancel_left (List.append_cancel_right h)
  have hdecl := Text.eq_of_joined_comma_space_eq (by simpa using hc) (by simpa using hd)
    (hclosed hcp) (hclosed hdp) hjoined
  exact Variable.eq_of_map_declaration_eq (fun p hp => (hcp p hp).2) (fun p hp => (hdp p hp).2)
    hdecl

end QueryScaffold
