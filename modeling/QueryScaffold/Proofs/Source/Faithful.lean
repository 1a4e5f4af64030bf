import QueryScaffold.Proofs.Source.Reading

/-!
# Rendering loses nothing

The text of a well-formed file determines the file, up to the one thing that no line shows: which
entity a method was made for. The text falls into lines, the lines fall into sections at lines that
cannot belong to the section before them, and each line gives its names away.

* `append_cons_inj_of_all`: two lists that are divided by the first element off a property;
* `QueryMethod.eq_of_lines_append_eq`, `eq_of_flatMap_lines_eq`: the lines of a method, and those of
  all methods one after the other;
* `SourceFile.text_eq_text_iff`: **two accepted files have one text exactly if they agree in
  everything but the names of entities**.
-/

namespace QueryScaffold

/-! ## Lists that are divided by a property -/

/-- The first element without the property divides. -/
theorem append_cons_inj_of_all {α : Type} {p : α → Prop} {l l' r r' : List α} {a a' : α}
    (hl : ∀ x ∈ l, p x) (hl' : ∀ x ∈ l', p x) (ha : ¬p a) (ha' : ¬p a')
    (h : l ++ a :: r = l' ++ a' :: r') : l = l' ∧ a = a' ∧ r = r' := by
  induction l generalizing l' with
  | nil =>
    cases l' with
    | nil =>
      obtain ⟨hhead, htail⟩ := List.cons.inj h
      exact ⟨rfl, hhead, htail⟩
    | cons y ys =>
      obtain ⟨rfl, -⟩ := List.cons.inj h
      exact absurd (hl' _ (by simp)) ha
  | cons x xs ih =>
    cases l' with
    | nil =>
      obtain ⟨rfl, -⟩ := List.cons.inj h
      exact absurd (hl _ (by simp)) ha'
    | cons y ys =>
      obtain ⟨rfl, htail⟩ := List.cons.inj h
      obtain ⟨hxs, haa, hrr⟩ := ih (fun z hz => hl z (List.mem_cons_of_mem _ hz))
        (fun z hz => hl' z (List.mem_cons_of_mem _ hz)) htail
      exact ⟨by rw [hxs], haa, hrr⟩

/-! ## What is not written -/

/-- The method without the name of its entity, which no line of it shows. -/
def QueryMethod.withoutEntity (m : QueryMethod) : QueryMethod :=
  { m with body := { m.body with entityName := [] } }

/-- The file without the names of the entities that its methods were made for. -/
def SourceFile.withoutEntities (file : SourceFile) : SourceFile :=
  { file with
    queryClass :=
      { file.queryClass with methods := file.queryClass.methods.map QueryMethod.withoutEntity } }

namespace QueryMethod

theorem lines_withoutEntity (m : QueryMethod) : m.withoutEntity.lines = m.lines := rfl

theorem withoutEntity_eq_iff {m n : QueryMethod} :
    m.withoutEntity = n.withoutEntity ↔
      m.name = n.name ∧ m.returnType = n.returnType ∧ m.annotations = n.annotations ∧
        (m.body.accessorName = n.body.accessorName ∧ m.body.factoryField = n.body.factoryField ∧
          m.body.contextVariable = n.body.contextVariable ∧
          m.body.helperName = n.body.helperName) ∧
        m.summary = n.summary := by
  simp [withoutEntity]

/-! ## Methods -/

/-- The line is that of an attribute. -/
def IsAnnotationLine (line : Text) : Prop :=
  ∃ name, line = annotationLine name

theorem not_isAnnotationLine_headLine (m : QueryMethod) : ¬IsAnnotationLine m.headLine := by
  rintro ⟨name, h⟩
  have hhead : m.headLine[8]? = some (CodePoint.ofChar 'p') := rfl
  have hannotation : (annotationLine name)[8]? = some (CodePoint.ofChar '[') := rfl
  rw [h, hannotation] at hhead
  exact absurd hhead (by decide)

/-- **The lines of a method can be read back**, whatever follows them. -/
theorem eq_of_lines_append_eq {m n : QueryMethod} {rest rest' : List Text} (hm : m.WellFormed)
    (hn : n.WellFormed) (h : m.lines ++ rest = n.lines ++ rest') :
    m.withoutEntity = n.withoutEntity ∧ rest = rest' := by
  simp only [lines, List.append_assoc, List.cons_append, List.nil_append, List.cons.injEq,
    true_and] at h
  obtain ⟨hsummary, hsections⟩ := h
  have hall : ∀ names : List Text, ∀ line ∈ names.map annotationLine, IsAnnotationLine line := by
    intro names line hl
    obtain ⟨name, -, rfl⟩ := List.mem_map.1 hl
    exact ⟨name, rfl⟩
  obtain ⟨hannotations, hhead, hbody⟩ := append_cons_inj_of_all (hall _) (hall _)
    (not_isAnnotationLine_headLine m) (not_isAnnotationLine_headLine n) hsections
  simp only [List.cons.injEq, true_and] at hbody
  obtain ⟨hcontext, hreturn, hrest⟩ := hbody
  obtain ⟨htype, hname⟩ := eq_of_headLine_eq hm.name hn.name hhead
  obtain ⟨hvariable, hfield⟩ :=
    eq_of_contextLine_eq hm.contextVariable hn.contextVariable hcontext
  obtain ⟨hhelper, haccessor⟩ := eq_of_returnLine_eq hm hn hreturn
  have hnames := (List.map_inj_right annotationLine_injective).1 hannotations
  exact ⟨withoutEntity_eq_iff.2 ⟨hname, htype, hnames, ⟨haccessor, hfield, hvariable, hhelper⟩,
    List.append_cancel_left hsummary⟩, hrest⟩

/-- The lines of methods can be read back from those of the class: a method starts with an empty
line, and what closes the class does not. -/
theorem eq_of_flatMap_lines_eq {ms ns : List QueryMethod} (hm : ∀ m ∈ ms, m.WellFormed)
    (hn : ∀ n ∈ ns, n.WellFormed)
    (h : ms.flatMap lines ++ SourceFile.footerLines = ns.flatMap lines ++ SourceFile.footerLines) :
    ms.map withoutEntity = ns.map withoutEntity := by
  have hfooter : ∀ (m : QueryMethod) (rest : List Text),
      SourceFile.footerLines ≠ m.lines ++ rest := by
    intro m rest he
    exact absurd (List.cons.inj he).1 (by decide)
  induction ms generalizing ns with
  | nil =>
    cases ns with
    | nil => rfl
    | cons n ns =>
      rw [List.flatMap_cons, List.append_assoc] at h
      exact absurd h (hfooter n _)
  | cons m ms ih =>
    cases ns with
    | nil =>
      rw [List.flatMap_cons, List.append_assoc] at h
      exact absurd h.symm (hfooter m _)
    | cons n ns =>
      rw [List.flatMap_cons, List.flatMap_cons, List.append_assoc, List.append_assoc] at h
      obtain ⟨hfirst, hrest⟩ := eq_of_lines_append_eq (hm m (by simp)) (hn n (by simp)) h
      rw [List.map_cons, List.map_cons, hfirst,
        ih (fun x hx => hm x (List.mem_cons_of_mem _ hx))
          (fun x hx => hn x (List.mem_cons_of_mem _ hx)) hrest]

end QueryMethod

/-! ## The class and the file -/

namespace SourceFile

theorem importLine_injective : Function.Injective importLine := by
  intro a b h
  rw [importLine, importLine, List.append_assoc, List.append_assoc] at h
  exact List.append_cancel_right (List.append_cancel_left h)

theorem importLine_ne_nil (name : Text) : importLine name ≠ [] := by
  intro h
  exact absurd (congrArg List.head? h) (by simp [importLine, Text.ofString])

theorem lines_withoutEntities (file : SourceFile) : file.withoutEntities.lines = file.lines := by
  have hmethods : (file.queryClass.methods.map QueryMethod.withoutEntity).flatMap
      QueryMethod.lines = file.queryClass.methods.flatMap QueryMethod.lines := by
    rw [List.flatMap_map]
    simp only [QueryMethod.lines_withoutEntity]
  show file.headerLines ++ _ ++ footerLines = _
  rw [lines, ← hmethods]
  rfl

/-- The names in the opening lines of a class can be read back. -/
theorem eq_of_openingLines_eq {file other : SourceFile} (hf : file.WellFormed)
    (ho : other.WellFormed) {rest rest' : List Text}
    (h : file.queryClass.openingLines ++ rest = other.queryClass.openingLines ++ rest') :
    (file.queryClass.typeName = other.queryClass.typeName ∧
      file.queryClass.baseTypeName = other.queryClass.baseTypeName ∧
      file.queryClass.parameters = other.queryClass.parameters ∧
      file.queryClass.factoryField = other.queryClass.factoryField) ∧ rest = rest' := by
  simp only [QueryClass.openingLines, List.cons_append, List.nil_append, List.cons.injEq,
    true_and] at h
  obtain ⟨hhead, hfield, hconstructor, -, -, hrest⟩ := h
  obtain ⟨htype, hbase⟩ := QueryClass.eq_of_headLine_eq hf.className ho.className hhead
  have hparameters := QueryClass.eq_of_constructorLine_eq htype hf.parameters_ne_nil
    ho.parameters_ne_nil hf.parameters ho.parameters hconstructor
  exact ⟨⟨htype, hbase, hparameters,
    QueryClass.eq_of_fieldLine_eq hf.fieldName ho.fieldName hfield⟩, hrest⟩

/-- **The lines of a well-formed file determine it**, up to the names of entities. -/
theorem withoutEntities_eq_of_lines_eq {file other : SourceFile} (hf : file.WellFormed)
    (ho : other.WellFormed) (h : file.lines = other.lines) :
    file.withoutEntities = other.withoutEntities := by
  simp only [lines, headerLines, List.append_assoc, List.cons_append, List.nil_append,
    List.cons.injEq] at h
  obtain ⟨hprovenance, hsections⟩ := h
  have hne : ∀ names : List Text, ∀ line ∈ names.map importLine, line ≠ [] := by
    intro names line hl
    obtain ⟨name, -, rfl⟩ := List.mem_map.1 hl
    exact importLine_ne_nil name
  obtain ⟨himports, -, hspace⟩ := append_cons_inj_of_all (hne _) (hne _) (by simp) (by simp)
    hsections
  simp only [List.cons.injEq, true_and] at hspace
  obtain ⟨hnamespace, hclass⟩ := hspace
  obtain ⟨⟨htype, hbase, hparameters, hfield⟩, hmethods⟩ := eq_of_openingLines_eq hf ho hclass
  have hms := QueryMethod.eq_of_flatMap_lines_eq hf.methods ho.methods hmethods
  have hnames := (List.map_inj_right importLine_injective).1 himports
  simp only [withoutEntities, SourceFile.mk.injEq, QueryClass.mk.injEq]
  exact ⟨List.append_cancel_left hnamespace, hnames, List.append_cancel_left hprovenance, htype,
    hbase, hparameters, hfield, hms⟩

/-- **Rendering loses nothing but the names of entities.** Two files that are accepted have one text
exactly if they agree in everything else: the namespace, the imports in their order, the comment,
the class with its base type, its parameters and its field, and the methods in their order with all
their names, attributes and summaries. -/
theorem text_eq_text_iff {file other : SourceFile} {text text' : Text}
    (hf : file.render = .ok text) (ho : other.render = .ok text') :
    text = text' ↔ file.withoutEntities = other.withoutEntities := by
  obtain ⟨hfile, rfl⟩ := render_eq_ok_iff.1 hf
  obtain ⟨hother, rfl⟩ := render_eq_ok_iff.1 ho
  constructor
  · intro h
    have hlines := congrArg (Text.split (CodePoint.ofChar '\n')) h
    rw [split_text hfile, split_text hother] at hlines
    exact withoutEntities_eq_of_lines_eq hfile hother (List.append_cancel_right hlines)
  · intro h
    rw [SourceFile.text, SourceFile.text, ← lines_withoutEntities file, h, lines_withoutEntities]

/-- A file with nested type arguments, made for an entity of this name. -/
def nestedArguments (entity : Text) : SourceFile :=
  { codeNamespace := "Shop.Api"
    imports := ["System", "HotChocolate.Data"]
    provenance := "made of parts, by hand"
    queryClass :=
      { typeName := "Query"
        baseTypeName := "QueryBase<Map<int, string>, Row>"
        parameters := [⟨"Factory<Pair<A, B>>", "factory"⟩, ⟨"ICache", "cache"⟩]
        factoryField := ⟨"Factory<Pair<A, B>>", "_factory"⟩
        methods :=
          [{ name := "GetCustomers"
             returnType := "IQueryable<Customer>"
             annotations := ["UsePaging", "UseSorting"]
             body :=
               { accessorName := "Customers"
                 entityName := entity
                 factoryField := "_factory"
                 contextVariable := "context_Customers"
                 helperName := "Apply" }
             summary := "Gets the Customers." }] } }

theorem text_nestedArguments_eq :
    ∃ text text', (nestedArguments "Customer").render = .ok text ∧
      (nestedArguments "Client").render = .ok text' ∧ text = text' := by
  have hcustomer : (nestedArguments "Customer").render =
      .ok (nestedArguments "Customer").text :=
    render_eq_ok_iff.2 ⟨fault?_eq_none_iff.1 (by decide +kernel), rfl⟩
  have hclient : (nestedArguments "Client").render = .ok (nestedArguments "Client").text :=
    render_eq_ok_iff.2 ⟨fault?_eq_none_iff.1 (by decide +kernel), rfl⟩
  exact ⟨_, _, hcustomer, hclient, (text_eq_text_iff hcustomer hclient).2 rfl⟩

end SourceFile

end QueryScaffold
