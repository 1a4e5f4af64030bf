import QueryScaffold.Proofs.Json.Layout

/-!
# Reading what was written

A value without doubles and without surrogates, whose objects have distinct keys, is read back from
any layout of its tokens. The proof follows the value: what comes after its tokens is another layout,
where the reader of the enclosing array or object goes on.

* `Json.Plain`: the values that are read back;
* `Json.Reads`: a value is read where its tokens are next, shown for every plain value in
  `Json.Plain.reads`;
* `Json.readText_of_isWritten`, `Json.ofBytes_of_isWritten`: **a plain value is read back**.
-/

namespace QueryScaffold.Json

/-! ## Plain values -/

/-- A value without doubles, with integers that are not too long, strings without surrogates and
objects with distinct keys. -/
inductive Plain : Json → Prop
  | null : Plain .null
  | bool (b : Bool) : Plain (.bool b)
  | int {n : Int} : (Text.ofNat n.natAbs).length ≤ maxDigits → Plain (.int n)
  | string {s : Text} : s.hasSurrogate = false → Plain (.string s)
  | array {items : List Json} : (∀ item ∈ items, Plain item) → Plain (.array items)
  | object {entries : Entries} : (entries.map Prod.fst).Nodup →
      (∀ entry ∈ entries, entry.1.hasSurrogate = false) → (∀ entry ∈ entries, Plain entry.2) →
      Plain (.object entries)

theorem forall_mem_itemTokens {P : Text → Prop} (hcomma : P ("," : Text)) (hend : P ("]" : Text))
    {items : List Json} (h : ∀ item ∈ items, ∀ t ∈ item.tokens, P t) :
    ∀ t ∈ itemTokens items, P t := by
  induction items with
  | nil => exact List.forall_mem_singleton.2 hend
  | cons item rest ih =>
    obtain ⟨hitem, hrest⟩ := List.forall_mem_cons.1 h
    cases rest with
    | nil => exact List.forall_mem_append.2 ⟨hitem, List.forall_mem_singleton.2 hend⟩
    | cons next rest =>
      exact List.forall_mem_append.2 ⟨hitem, List.forall_mem_cons.2 ⟨hcomma, ih hrest⟩⟩

theorem forall_mem_entryTokens {P : Text → Prop} (hcomma : P ("," : Text)) (hcolon : P (":" : Text))
    (hend : P ("\x7d" : Text)) (hkey : ∀ key, P (stringToken key)) {entries : Entries}
    (h : ∀ entry ∈ entries, ∀ t ∈ entry.2.tokens, P t) : ∀ t ∈ entryTokens entries, P t := by
  induction entries with
  | nil => exact List.forall_mem_singleton.2 hend
  | cons entry rest ih =>
    obtain ⟨key, value⟩ := entry
    obtain ⟨hvalue, hrest⟩ := List.forall_mem_cons.1 h
    have hfirst {tokens : List Text} (htokens : ∀ t ∈ tokens, P t) :
        ∀ t ∈ stringToken key :: (":" : Text) :: (value.tokens ++ tokens), P t :=
      List.forall_mem_cons.2 ⟨hkey key, List.forall_mem_cons.2
        ⟨hcolon, List.forall_mem_append.2 ⟨hvalue, htokens⟩⟩⟩
    cases rest with
    | nil => exact hfirst (List.forall_mem_singleton.2 hend)
    | cons next rest => exact hfirst (List.forall_mem_cons.2 ⟨hcomma, ih hrest⟩)

/-- The tokens of a plain value. -/
theorem Plain.isToken {value : Json} (h : value.Plain) : ∀ t ∈ value.tokens, IsToken t := by
  induction h with
  | null => exact List.forall_mem_singleton.2 ⟨by decide, _, _, rfl, rfl⟩
  | bool b =>
    cases b <;> exact List.forall_mem_singleton.2 ⟨by decide, _, _, rfl, rfl⟩
  | int _ => exact List.forall_mem_singleton.2 (isToken_ofInt _)
  | string _ => exact List.forall_mem_singleton.2 (isToken_stringToken _)
  | array _ ih =>
    refine List.forall_mem_cons.2 ⟨⟨by decide, _, _, rfl, rfl⟩, ?_⟩
    exact forall_mem_itemTokens ⟨by decide, _, _, rfl, rfl⟩ ⟨by decide, _, _, rfl, rfl⟩ ih
  | object _ _ _ ih =>
    refine List.forall_mem_cons.2 ⟨⟨by decide, _, _, rfl, rfl⟩, ?_⟩
    exact forall_mem_entryTokens ⟨by decide, _, _, rfl, rfl⟩ ⟨by decide, _, _, rfl, rfl⟩
      ⟨by decide, _, _, rfl, rfl⟩ isToken_stringToken ih

/-! ## Values in their places -/

/-- What comes after a value: nothing, a comma, or the end of an array or an object. -/
def EndsValue (tokens : List Text) : Prop :=
  ∀ t ∈ tokens.head?, t = ("," : Text) ∨ t = ("]" : Text) ∨ t = ("\x7d" : Text)

/-- A value is read where its tokens are next, and its reader stops where they end. -/
def Reads (value : Json) : Prop :=
  ∀ (more : List Text) (text : List Char) (fuel : Nat), LaidOut (value.tokens ++ more) text →
    EndsValue more → value.tokens.length ≤ fuel →
      ∃ gap rest, IsGap gap ∧ LaidOut more rest ∧ readValue fuel text = .ok (value, gap ++ rest)

theorem EndsValue.endsNumber {tokens : List Text} (h : EndsValue tokens) {gap rest : List Char}
    (hgap : IsGap gap) (hrest : LaidOut tokens rest) : EndsNumber (gap ++ rest) := by
  have hblank {c : Char} (hc : isBlank c = true) :
      isDigit c = false ∧ c ≠ '.' ∧ c ≠ 'e' ∧ c ≠ 'E' := by
    simp only [isBlank, Bool.or_eq_true, decide_eq_true_eq] at hc
    rcases hc with ((rfl | rfl) | rfl) | rfl <;> decide
  intro c hc
  cases gap with
  | cons d gap =>
    obtain rfl := Option.some.inj hc
    exact hblank (hgap _ List.mem_cons_self)
  | nil =>
    cases hrest with
    | nil => cases hc
    | cons hgap hrest =>
      rcases h _ rfl with rfl | rfl | rfl <;> · obtain rfl := Option.some.inj hc; decide

/-- The value starts like no end of an array. -/
theorem Plain.exists_tokens {value : Json} (h : value.Plain) :
    ∃ t rest, value.tokens = t :: rest ∧ t.chars.head? ≠ some ']' := by
  cases h with
  | null => exact ⟨_, _, rfl, by decide⟩
  | bool b => exact ⟨_, _, rfl, by cases b <;> decide⟩
  | @int n _ =>
    obtain ⟨c, chars, hchars, hc⟩ := exists_chars_ofInt n
    refine ⟨_, _, rfl, ?_⟩
    rw [hchars]
    intro hhead
    obtain rfl := Option.some.inj hhead
    exact absurd hc (by decide)
  | string _ => exact ⟨_, _, rfl, by simp [stringToken]⟩
  | array _ => exact ⟨_, _, rfl, by decide⟩
  | object _ _ _ => exact ⟨_, _, rfl, by decide⟩

/-- Where the tokens of a plain value are next, a value starts. -/
theorem Plain.starts {value : Json} (h : value.Plain) {more : List Text} {text : List Char}
    (hlaid : LaidOut (value.tokens ++ more) text) : StartsSolid text ∧ text.head? ≠ some ']' := by
  obtain ⟨t, rest, htokens, hhead⟩ := h.exists_tokens
  have htoken : IsToken t := h.isToken t (htokens ▸ List.mem_cons_self)
  rw [htokens, List.cons_append] at hlaid
  refine ⟨hlaid.startsSolid fun u hu => Option.some.inj hu ▸ htoken, ?_⟩
  rwa [hlaid.head?_eq htoken]

/-! ## Scalars -/

theorem readValue_plain {c : Char} {chars : List Char} (hquote : c ≠ '"') (harray : c ≠ '[')
    (hobject : c ≠ '\x7b') (fuel : Nat) :
    readValue (fuel + 1) (c :: chars) = readPlain (c :: chars) := by
  rw [readValue]
  · exact fun _ h => hquote (List.cons.inj h).1
  · exact fun _ h => harray (List.cons.inj h).1
  · exact fun _ h => hobject (List.cons.inj h).1

/-- A value of one token, which is read before anything that may come after it. -/
theorem reads_of_readPlain {value : Json} {t : Text} (htokens : value.tokens = [t])
    (hread : ∀ rest, EndsNumber rest → readPlain (t.chars ++ rest) = .ok (value, rest))
    (hhead : ∃ c chars, t.chars = c :: chars ∧ c ≠ '"' ∧ c ≠ '[' ∧ c ≠ '\x7b') :
    Reads value := by
  intro more text fuel hlaid hends hfuel
  rw [htokens, List.singleton_append] at hlaid
  rw [htokens, List.length_singleton] at hfuel
  obtain ⟨gap, rest, hgap, hrest, rfl⟩ := hlaid.exists_of_cons
  obtain ⟨fuel, rfl⟩ : ∃ m, fuel = m + 1 := Nat.exists_eq_add_of_le' hfuel
  obtain ⟨c, chars, hchars, hquote, harray, hobject⟩ := hhead
  refine ⟨gap, rest, hgap, hrest, ?_⟩
  rw [← hread _ (hends.endsNumber hgap hrest), hchars, List.cons_append,
    readValue_plain hquote harray hobject]

theorem reads_string {s : Text} (hs : s.hasSurrogate = false) : Reads (.string s) := by
  intro more text fuel hlaid _ hfuel
  have htoken : LaidOut (stringToken s :: more) text := hlaid
  obtain ⟨gap, rest, hgap, hrest, rfl⟩ := htoken.exists_of_cons
  obtain ⟨fuel, rfl⟩ : ∃ m, fuel = m + 1 := Nat.exists_eq_add_of_le' hfuel
  obtain ⟨inside, hchars, hread⟩ := readString_stringToken hs
  refine ⟨gap, rest, hgap, hrest, ?_⟩
  rw [hchars, List.cons_append, readValue, hread]
  rfl

/-! ## Arrays -/

/-- After a value the next mark is found behind white space. -/
theorem exists_of_reads {value : Json} (h : Reads value) {c : Char}
    (hc : c = ',' ∨ c = ']' ∨ c = '\x7d') {more : List Text} {text : List Char} {fuel : Nat}
    (hlaid : LaidOut (value.tokens ++ [CodePoint.ofChar c] :: more) text)
    (hfuel : value.tokens.length ≤ fuel) :
    ∃ before gap rest, readValue fuel text = .ok (value, before) ∧
      skipBlanks before = c :: (gap ++ rest) ∧ IsGap gap ∧ LaidOut more rest := by
  have hends : EndsValue ([CodePoint.ofChar c] :: more) := by
    intro t ht
    obtain rfl := Option.some.inj ht
    rcases hc with rfl | rfl | rfl
    · exact .inl rfl
    · exact .inr (.inl rfl)
    · exact .inr (.inr rfl)
  have hsolid : isBlank c = false := by rcases hc with rfl | rfl | rfl <;> rfl
  obtain ⟨gap, rest, hgap, hrest, hread⟩ := h _ _ _ hlaid hends hfuel
  obtain ⟨inner, tail, hinner, htail, rfl⟩ := hrest.exists_of_mark
  refine ⟨_, inner, tail, hread, ?_, hinner, htail⟩
  exact skipBlanks_gap hgap (startsSolid_cons hsolid _)

theorem itemTokens_singleton (item : Json) :
    itemTokens [item] = item.tokens ++ [[CodePoint.ofChar ']']] := rfl

theorem itemTokens_cons_cons (item next : Json) (rest : List Json) :
    itemTokens (item :: next :: rest) =
      item.tokens ++ [CodePoint.ofChar ','] :: itemTokens (next :: rest) := rfl

theorem startsSolid_items {item : Json} (h : item.Plain) {rest : List Json} {more : List Text}
    {text : List Char} (hlaid : LaidOut (itemTokens (item :: rest) ++ more) text) :
    StartsSolid text ∧ text.head? ≠ some ']' := by
  cases rest with
  | nil =>
    rw [itemTokens_singleton, List.append_assoc] at hlaid
    exact h.starts hlaid
  | cons next rest =>
    rw [itemTokens_cons_cons, List.append_assoc] at hlaid
    exact h.starts hlaid

/-- By induction on the items that are left: each of them is read, and the mark after it says whether
there are more. -/
theorem readItems_of_laidOut {item : Json} {rest : List Json}
    (hplain : ∀ value ∈ item :: rest, Plain value) (hreads : ∀ value ∈ item :: rest, Reads value)
    {more : List Text} {text : List Char} {fuel : Nat}
    (hlaid : LaidOut (itemTokens (item :: rest) ++ more) text)
    (hfuel : (itemTokens (item :: rest)).length ≤ fuel) (done : List Json) :
    ∃ gap tail, IsGap gap ∧ LaidOut more tail ∧
      readItems fuel done text = .ok (.array (done.reverse ++ item :: rest), gap ++ tail) := by
  induction rest generalizing item text fuel done with
  | nil =>
    rw [itemTokens_singleton, List.append_assoc] at hlaid
    rw [itemTokens_singleton, List.length_append, List.length_singleton] at hfuel
    obtain ⟨fuel, rfl⟩ : ∃ m, fuel = m + 1 := Nat.exists_eq_add_of_le' (by omega)
    have hbound : item.tokens.length ≤ fuel := by omega
    obtain ⟨before, gap, tail, hread, hskip, hgap, htail⟩ :=
      exists_of_reads (hreads item List.mem_cons_self) (.inr (.inl rfl)) hlaid hbound
    refine ⟨gap, tail, hgap, htail, ?_⟩
    rw [readItems, hread]
    simp only [hskip, List.reverse_cons]
  | cons next rest ih =>
    rw [itemTokens_cons_cons, List.append_assoc, List.cons_append] at hlaid
    rw [itemTokens_cons_cons, List.length_append, List.length_cons] at hfuel
    obtain ⟨fuel, rfl⟩ : ∃ m, fuel = m + 1 := Nat.exists_eq_add_of_le' (by omega)
    have hbound : item.tokens.length ≤ fuel := by omega
    obtain ⟨before, gap, tail, hread, hskip, hgap, htail⟩ :=
      exists_of_reads (hreads item List.mem_cons_self) (.inl rfl) hlaid hbound
    obtain ⟨-, hplain⟩ := List.forall_mem_cons.1 hplain
    obtain ⟨-, hreads⟩ := List.forall_mem_cons.1 hreads
    have hbound : (itemTokens (next :: rest)).length ≤ fuel := by omega
    have hsolid := (startsSolid_items (hplain next List.mem_cons_self) htail).1
    obtain ⟨inner, tail, hinner, htail, heq⟩ := ih hplain hreads htail hbound (item :: done)
    refine ⟨inner, tail, hinner, htail, ?_⟩
    rw [readItems, hread]
    simp only [hskip, skipBlanks_gap hgap hsolid, heq, List.reverse_cons, List.append_assoc,
      List.singleton_append]

/-! ## Objects -/

/-- A key that is not there goes to the end. -/
theorem insert_of_notMem {key : Text} {entries : Entries} (h : key ∉ entries.map Prod.fst)
    (value : Json) : Entries.insert key value entries = entries ++ [(key, value)] := by
  induction entries with
  | nil => rfl
  | cons entry rest ih =>
    obtain ⟨k, v⟩ := entry
    obtain ⟨hne, hrest⟩ := List.ne_and_not_mem_of_not_mem_cons h
    rw [Entries.insert, if_neg fun hk => hne hk.symm, ih hrest, List.cons_append]

theorem entryTokens_singleton (key : Text) (value : Json) :
    entryTokens [(key, value)] = stringToken key :: [CodePoint.ofChar ':'] ::
      (value.tokens ++ [[CodePoint.ofChar '\x7d']]) := rfl

theorem entryTokens_cons_cons (key : Text) (value : Json) (next : Text × Json) (rest : Entries) :
    entryTokens ((key, value) :: next :: rest) = stringToken key :: [CodePoint.ofChar ':'] ::
      (value.tokens ++ [CodePoint.ofChar ','] :: entryTokens (next :: rest)) := rfl

theorem startsSolid_entries {entry : Text × Json} {rest : Entries} {more : List Text}
    {text : List Char} (hlaid : LaidOut (entryTokens (entry :: rest) ++ more) text) :
    StartsSolid text ∧ text.head? ≠ some '\x7d' := by
  have hstart {key : Text} {tokens : List Text} (h : LaidOut (stringToken key :: tokens) text) :
      StartsSolid text ∧ text.head? ≠ some '\x7d' := by
    refine ⟨h.startsSolid fun t ht => Option.some.inj ht ▸ isToken_stringToken key, ?_⟩
    rw [h.head?_eq (isToken_stringToken key)]
    simp [stringToken]
  obtain ⟨key, value⟩ := entry
  cases rest with
  | nil => exact hstart hlaid
  | cons next rest => exact hstart hlaid

/-- An entry is read: its key, its colon, its value, and the mark after it. -/
theorem exists_of_entry {key : Text} {value : Json} (hkey : key.hasSurrogate = false)
    (hplain : value.Plain) (hreads : Reads value) {c : Char} (hc : c = ',' ∨ c = ']' ∨ c = '\x7d')
    {more : List Text} {text : List Char} {fuel : Nat}
    (hlaid : LaidOut (stringToken key :: [CodePoint.ofChar ':'] ::
      (value.tokens ++ [CodePoint.ofChar c] :: more)) text)
    (hfuel : value.tokens.length ≤ fuel) :
    ∃ inside before middle after gap rest, text = '"' :: inside ∧
      (∀ opening, readString opening [] 0 inside = .ok (key, before)) ∧
      skipBlanks before = ':' :: middle ∧
      readValue fuel (skipBlanks middle) = .ok (value, after) ∧
      skipBlanks after = c :: (gap ++ rest) ∧ IsGap gap ∧ LaidOut more rest := by
  obtain ⟨outer, _, houter, hcolon, rfl⟩ := hlaid.exists_of_cons
  obtain ⟨inner, tail, hinner, htail, rfl⟩ := hcolon.exists_of_mark
  obtain ⟨inside, hchars, hread⟩ := readString_stringToken hkey
  obtain ⟨after, gap, rest, hvalue, hskip, hgap, hrest⟩ := exists_of_reads hreads hc htail hfuel
  refine ⟨inside ++ (outer ++ ':' :: (inner ++ tail)), _, inner ++ tail, after, gap, rest, ?_,
    fun opening => hread _ _, ?_, ?_, hskip, hgap, hrest⟩
  · rw [hchars, List.cons_append]
  · exact skipBlanks_gap houter (startsSolid_cons rfl _)
  · rwa [skipBlanks_gap hinner (hplain.starts htail).1]

/-- By induction on the entries that are left, as for the items of an array; the keys that come are
not among those that were read. -/
theorem readEntries_of_laidOut {entry : Text × Json} {rest : Entries}
    (hkeys : ∀ e ∈ entry :: rest, e.1.hasSurrogate = false)
    (hplain : ∀ e ∈ entry :: rest, Plain e.2) (hreads : ∀ e ∈ entry :: rest, Reads e.2)
    {more : List Text} {text : List Char} {fuel : Nat}
    (hlaid : LaidOut (entryTokens (entry :: rest) ++ more) text)
    (hfuel : (entryTokens (entry :: rest)).length ≤ fuel) {done : Entries}
    (hdistinct : ((done ++ entry :: rest).map Prod.fst).Nodup) :
    ∃ gap tail, IsGap gap ∧ LaidOut more tail ∧
      readEntries fuel done text = .ok (.object (done ++ entry :: rest), gap ++ tail) := by
  have hfresh {key : Text} {value : Json} {done rest : Entries}
      (h : ((done ++ (key, value) :: rest).map Prod.fst).Nodup) : key ∉ done.map Prod.fst := by
    rw [List.map_append, List.map_cons] at h
    exact fun hm => (List.nodup_append.1 h).2.2 key hm key List.mem_cons_self rfl
  induction rest generalizing entry text fuel done with
  | nil =>
    obtain ⟨key, value⟩ := entry
    rw [entryTokens_singleton, List.cons_append, List.cons_append, List.append_assoc] at hlaid
    rw [entryTokens_singleton, List.length_cons, List.length_cons, List.length_append] at hfuel
    obtain ⟨fuel, rfl⟩ : ∃ m, fuel = m + 1 := Nat.exists_eq_add_of_le' (by omega)
    have hbound : value.tokens.length ≤ fuel := by omega
    obtain ⟨inside, before, middle, after, gap, tail, rfl, hkey, hcolon, hread, hskip, hgap,
      htail⟩ := exists_of_entry (hkeys _ List.mem_cons_self) (hplain _ List.mem_cons_self)
        (hreads _ List.mem_cons_self) (.inr (.inr rfl)) hlaid hbound
    refine ⟨gap, tail, hgap, htail, ?_⟩
    rw [readEntries, hkey]
    simp only [hcolon, hread, hskip, insert_of_notMem (hfresh hdistinct)]
  | cons next rest ih =>
    obtain ⟨key, value⟩ := entry
    rw [entryTokens_cons_cons, List.cons_append, List.cons_append, List.append_assoc] at hlaid
    rw [entryTokens_cons_cons, List.length_cons, List.length_cons, List.length_append,
      List.length_cons] at hfuel
    obtain ⟨fuel, rfl⟩ : ∃ m, fuel = m + 1 := Nat.exists_eq_add_of_le' (by omega)
    have hbound : value.tokens.length ≤ fuel := by omega
    obtain ⟨inside, before, middle, after, gap, tail, rfl, hkey, hcolon, hread, hskip, hgap,
      htail⟩ := exists_of_entry (hkeys _ List.mem_cons_self) (hplain _ List.mem_cons_self)
        (hreads _ List.mem_cons_self) (.inl rfl) hlaid hbound
    have hinsert := insert_of_notMem (hfresh hdistinct) value
    have hmoved : done ++ (key, value) :: next :: rest =
        (done ++ [(key, value)]) ++ next :: rest := by simp
    rw [hmoved] at hdistinct ⊢
    obtain ⟨-, hkeys⟩ := List.forall_mem_cons.1 hkeys
    obtain ⟨-, hplain⟩ := List.forall_mem_cons.1 hplain
    obtain ⟨-, hreads⟩ := List.forall_mem_cons.1 hreads
    have hbound : (entryTokens (next :: rest)).length ≤ fuel := by omega
    have hsolid := (startsSolid_entries htail).1
    obtain ⟨last, after, hlast, hafter, heq⟩ := ih hkeys hplain hreads htail hbound hdistinct
    refine ⟨last, after, hlast, hafter, ?_⟩
    rw [readEntries, hkey]
    simp only [hcolon, hread, hskip, hinsert, skipBlanks_gap hgap hsolid, heq]

/-! ## Whole values -/

theorem reads_array {items : List Json} (hplain : ∀ item ∈ items, Plain item)
    (hreads : ∀ item ∈ items, Reads item) : Reads (.array items) := by
  intro more text fuel hlaid hends hfuel
  have hmark : LaidOut ([CodePoint.ofChar '['] :: (itemTokens items ++ more)) text := hlaid
  have hbound : (itemTokens items).length + 1 ≤ fuel := hfuel
  obtain ⟨gap, rest, hgap, hrest, rfl⟩ := hmark.exists_of_mark
  obtain ⟨fuel, rfl⟩ : ∃ m, fuel = m + 1 := Nat.exists_eq_add_of_le' (by omega)
  cases items with
  | nil =>
    have hend : LaidOut ([CodePoint.ofChar ']'] :: more) rest := hrest
    obtain ⟨last, tail, hlast, htail, rfl⟩ := hend.exists_of_mark
    refine ⟨last, tail, hlast, htail, ?_⟩
    rw [readValue, skipBlanks_gap hgap (startsSolid_cons rfl _)]
    rfl
  | cons item items =>
    obtain ⟨hsolid, hhead⟩ := startsSolid_items (hplain item List.mem_cons_self) hrest
    obtain ⟨last, tail, hlast, htail, heq⟩ :=
      readItems_of_laidOut hplain hreads hrest (Nat.le_of_succ_le_succ hbound) []
    refine ⟨last, tail, hlast, htail, ?_⟩
    rw [readValue, skipBlanks_gap hgap hsolid]
    split
    · exact absurd rfl hhead
    · exact heq

theorem reads_object {entries : Entries} (hdistinct : (entries.map Prod.fst).Nodup)
    (hkeys : ∀ entry ∈ entries, entry.1.hasSurrogate = false)
    (hplain : ∀ entry ∈ entries, Plain entry.2) (hreads : ∀ entry ∈ entries, Reads entry.2) :
    Reads (.object entries) := by
  intro more text fuel hlaid hends hfuel
  have hmark : LaidOut ([CodePoint.ofChar '\x7b'] :: (entryTokens entries ++ more)) text := hlaid
  have hbound : (entryTokens entries).length + 1 ≤ fuel := hfuel
  obtain ⟨gap, rest, hgap, hrest, rfl⟩ := hmark.exists_of_mark
  obtain ⟨fuel, rfl⟩ : ∃ m, fuel = m + 1 := Nat.exists_eq_add_of_le' (by omega)
  cases entries with
  | nil =>
    have hend : LaidOut ([CodePoint.ofChar '\x7d'] :: more) rest := hrest
    obtain ⟨last, tail, hlast, htail, rfl⟩ := hend.exists_of_mark
    refine ⟨last, tail, hlast, htail, ?_⟩
    rw [readValue, skipBlanks_gap hgap (startsSolid_cons rfl _)]
    rfl
  | cons entry entries =>
    obtain ⟨hsolid, hhead⟩ := startsSolid_entries hrest
    have hnone : (([] ++ entry :: entries).map Prod.fst).Nodup := hdistinct
    obtain ⟨last, tail, hlast, htail, heq⟩ :=
      readEntries_of_laidOut hkeys hplain hreads hrest (Nat.le_of_succ_le_succ hbound) hnone
    refine ⟨last, tail, hlast, htail, ?_⟩
    rw [readValue, skipBlanks_gap hgap hsolid]
    split
    · exact absurd rfl hhead
    · exact heq

theorem reads_int {n : Int} (hn : (Text.ofNat n.natAbs).length ≤ maxDigits) :
    Reads (.int n) := by
  obtain ⟨c, chars, hchars, hc⟩ := exists_chars_ofInt n
  refine reads_of_readPlain rfl (fun rest hrest => readPlain_ofInt hn hrest) ⟨c, chars, hchars, ?_⟩
  refine ⟨?_, ?_, ?_⟩ <;> · rintro rfl; exact absurd hc (by decide)

/-- By induction on the value: its items and the values of its entries are read in their places. -/
theorem Plain.reads {value : Json} (h : value.Plain) : Reads value := by
  induction h with
  | null =>
    exact reads_of_readPlain rfl (fun _ _ => rfl) ⟨_, _, rfl, by decide, by decide, by decide⟩
  | bool b =>
    cases b <;>
      exact reads_of_readPlain rfl (fun _ _ => rfl) ⟨_, _, rfl, by decide, by decide, by decide⟩
  | int hn => exact reads_int hn
  | string hs => exact reads_string hs
  | array hplain ih => exact reads_array hplain ih
  | object hdistinct hkeys hplain ih => exact reads_object hdistinct hkeys hplain ih

/-! ## Whole texts -/

/-- **A plain value is read back** from its tokens with any white space around them. -/
theorem readText_of_isWritten {value : Json} (h : value.Plain) {text : List Char}
    (htext : IsWritten value text) : readText text = .ok value := by
  obtain ⟨gap, body, hgap, hbody, rfl⟩ := htext
  have hmark : '\uFEFF' ∉ gap ++ body := by
    have hnotGap : '\uFEFF' ∉ gap := fun hm => absurd (hgap _ hm) (by decide)
    have hnotBody : '\uFEFF' ∉ body := hbody.notMem h.isToken (by decide) (by decide)
    simp [hnotGap, hnotBody]
  have hfuel : value.tokens.length ≤ 2 * (gap ++ body).length + 2 := by
    have hlength := hbody.length_le h.isToken
    rw [List.length_append]
    omega
  have hends : EndsValue [] := fun t ht => absurd ht (by simp)
  rw [← List.append_nil value.tokens] at hbody
  obtain ⟨hsolid, -⟩ := h.starts hbody
  obtain ⟨last, rest, hlast, hrest, hread⟩ := h.reads _ _ _ hbody hends hfuel
  cases hrest
  have hskip : skipBlanks (last ++ []) = [] :=
    skipBlanks_gap hlast fun c hc => absurd hc (by simp)
  unfold readText
  split
  · next heq => exact absurd (heq ▸ List.mem_cons_self) hmark
  · rw [skipBlanks_gap hgap hsolid, hread]
    simp only [hskip]

theorem IsWritten.unifyNewlines {value : Json} (h : value.Plain) {text : List Char}
    (htext : IsWritten value text) : IsWritten value (unifyNewlines text) := by
  obtain ⟨gap, body, hgap, hbody, rfl⟩ := htext
  have hsolid := hbody.startsSolid fun t ht => h.isToken t (List.mem_of_mem_head? ht)
  obtain ⟨read, hread, heq⟩ := exists_unifyNewlines_gap hgap hsolid
  exact ⟨read, _, hread, hbody.unifyNewlines h.isToken, heq⟩

/-- **A plain value is read back** from a file with its tokens, whatever line endings are among the
white space around them. -/
theorem ofBytes_of_isWritten {value : Json} (h : value.Plain) {text : List Char}
    (htext : IsWritten value text) : ofBytes (utf8BytesOf text) = .ok value := by
  have hdecode : decodeUtf8 (utf8BytesOf text) = .ok text := decodeUtf8_eq_ok_iff.2 rfl
  have hread := readText_of_isWritten h (htext.unifyNewlines h)
  simp only [ofBytes, hdecode, read, hread]
  rfl

end QueryScaffold.Json
