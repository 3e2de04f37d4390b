import PromptScript.Proofs.FaultLines
import PromptScript.Proofs.Scope

/-!
# Proofs.DeclaredLines

The lines of declarations. The line of a variable is looked for in the text of the header: it is the
first one below the key of the section that begins with the name, however far it is indented. It is
never below the line that the entry is written on (`SectionLayout`), and it is that line if and only
if no line on the way there begins with the name (`declared_line_iff`). A key of the same name in
the value of an earlier entry comes first (`nested_key_comes_first`).
-/

namespace PromptScript

open Header

/-! ## Lines that begin with a key -/

section Keys

variable {lines : List (List Char)} {key : String} {i k start : Nat}

/-- This line begins with the key, however far it is indented. -/
def Begins (lines : List (List Char)) (key : String) (k : Nat) : Prop :=
  ∃ line, lines[k]? = some line ∧ declares key.toList line = true

instance (lines : List (List Char)) (key : String) (k : Nat) : Decidable (Begins lines key k) :=
  inferInstanceAs (Decidable (∃ line, lines[k]? = some line ∧ declares key.toList line = true))

/-- The line that is found is the first one from `start` on that begins with the key. -/
theorem keyLine?_eq_some_iff :
    keyLine? lines key start = some i ↔
      start ≤ i ∧ Begins lines key i ∧ ∀ k, start ≤ k → k < i → ¬ Begins lines key k := by
  rw [keyLine?, Option.map_eq_some_iff]
  constructor
  · rintro ⟨j, hj, rfl⟩
    obtain ⟨hlt, hbegins, hfirst⟩ := List.findIdx?_eq_some_iff_getElem.1 hj
    rw [List.getElem_drop] at hbegins
    refine ⟨Nat.le_add_right start j, ⟨_, List.getElem?_eq_getElem _, hbegins⟩, ?_⟩
    rintro k hstart hk ⟨line, hline, hearlier⟩
    refine hfirst (k - start) (by omega) ?_
    obtain ⟨_, rfl⟩ := List.getElem?_eq_some_iff.1 hline
    simp only [List.getElem_drop, Nat.add_sub_cancel' hstart]
    exact hearlier
  · rintro ⟨hstart, ⟨line, hline, hbegins⟩, hfirst⟩
    obtain ⟨hlt, rfl⟩ := List.getElem?_eq_some_iff.1 hline
    refine ⟨i - start, List.findIdx?_eq_some_iff_getElem.2 ?_, Nat.add_sub_cancel' hstart⟩
    refine ⟨by rw [List.length_drop]; omega, ?_, ?_⟩
    · simp only [List.getElem_drop, Nat.add_sub_cancel' hstart]
      exact hbegins
    · intro j hj hearlier
      rw [List.getElem_drop] at hearlier
      exact hfirst (start + j) (by omega) (by omega) ⟨_, List.getElem?_eq_getElem _, hearlier⟩

/-- Something is found if some line begins with the key, and it is not below that line. -/
theorem exists_keyLine? (hstart : start ≤ k) (h : Begins lines key k) :
    ∃ i ≤ k, keyLine? lines key start = some i := by
  -- back from `k`, as long as there is an earlier line that begins with the key
  induction k using Nat.strongRecOn with
  | ind k ih =>
    by_cases hearlier : ∃ j, start ≤ j ∧ j < k ∧ Begins lines key j
    · obtain ⟨j, hstart', hj, hbegins⟩ := hearlier
      obtain ⟨i, hi, hfound⟩ := ih j hj hstart' hbegins
      exact ⟨i, Nat.le_trans hi (Nat.le_of_lt hj), hfound⟩
    · exact ⟨k, Nat.le_refl k, keyLine?_eq_some_iff.2
        ⟨hstart, h, fun j hj hlt hbegins => hearlier ⟨j, hj, hlt, hbegins⟩⟩⟩

/-- Variables are looked for below the first line that begins with the key of the section. -/
theorem sectionStart_le_iff (h : ∃ i, keyLine? lines sectionKey 0 = some i) :
    sectionStart lines ≤ k ↔ ∃ j < k, Begins lines sectionKey j := by
  obtain ⟨i, hi⟩ := h
  obtain ⟨_, hbegins, hfirst⟩ := keyLine?_eq_some_iff.1 hi
  rw [sectionStart, hi]
  constructor
  · intro hk
    exact ⟨i, hk, hbegins⟩
  · rintro ⟨j, hj, hbegins'⟩
    have hij : ¬ j < i := fun hlt => hfirst j (Nat.zero_le j) hlt hbegins'
    dsimp only
    omega

end Keys

/-! ## Written keys -/

/-- A key as it is, and in quotes of either kind. -/
def writtenKeys (key : List Char) : List (List Char) :=
  [key, '"' :: key ++ ['"'], '\'' :: key ++ ['\'']]

/-- The line holds the key at this indentation, with a colon after it that ends the key. -/
def WritesKey (indent : Nat) (key : String) (line : List Char) : Prop :=
  ∃ form ∈ writtenKeys key.toList, trimStart form = form ∧
    List.replicate indent ' ' ++ form ++ [':'] <+: line ∧
      (line.drop (indent + form.length + 1)).head? ∈ [none, some ' ', some '\t']

instance (indent : Nat) (key : String) (line : List Char) : Decidable (WritesKey indent key line) :=
  inferInstanceAs (Decidable (∃ form ∈ writtenKeys key.toList, trimStart form = form ∧
    List.replicate indent ' ' ++ form ++ [':'] <+: line ∧
      (line.drop (indent + form.length + 1)).head? ∈ [none, some ' ', some '\t']))

theorem trimStart_indented (indent : Nat) (cs : List Char) :
    trimStart (List.replicate indent ' ' ++ cs) = trimStart cs := by
  rw [trimStart, trimStart, List.dropWhile_append_of_pos]
  intro c hc
  rw [List.eq_of_mem_replicate hc]
  rfl

theorem trimStart_form {form : List Char} (h : trimStart form = form) (rest : List Char) :
    trimStart (form ++ ':' :: rest) = form ++ ':' :: rest := by
  cases form with
  | nil => rfl
  | cons c cs =>
    have hc : isBlank c = false := by
      cases hblank : isBlank c with
      | false => rfl
      | true =>
        rw [trimStart, List.dropWhile_cons_of_pos hblank] at h
        have hlength := (List.dropWhile_sublist isBlank (l := cs)).length_le
        rw [h, List.length_cons] at hlength
        omega
    rw [trimStart, List.cons_append, List.dropWhile_cons_of_neg (by simp [hc])]

theorem declares_eq_true_iff {key line : List Char} :
    declares key line = true ↔ ∃ form ∈ writtenKeys key, form ++ [':'] <+: trimStart line := by
  simp [declares, writtenKeys, List.isPrefixOf_iff_prefix, or_assoc]

theorem declares_of_writesKey {indent : Nat} {key : String} {line : List Char}
    (h : WritesKey indent key line) : declares key.toList line = true := by
  obtain ⟨form, hform, htrim, ⟨value, rfl⟩, _⟩ := h
  refine declares_eq_true_iff.2 ⟨form, hform, value, ?_⟩
  simp only [List.append_assoc, List.singleton_append, trimStart_indented, trimStart_form htrim]

/-! ## Sections -/

/-- Where the entries of the section are written. Lines of the header are counted from 0. -/
structure SectionLayout where
  /-- The line of the key of the section. -/
  line : Nat
  /-- The indentation of the entries. -/
  indent : Nat
  /-- The lines of the keys of the entries. -/
  rows : List Nat

/-- A line that holds no entry: it is blank, or a comment, or indented further than the entries. -/
def Subordinate (indent : Nat) (line : List Char) : Prop :=
  (trimStart line).head? ∈ [none, some '#'] ∨ List.replicate (indent + 1) ' ' <+: line

instance (indent : Nat) (line : List Char) : Decidable (Subordinate indent line) :=
  inferInstanceAs (Decidable
    ((trimStart line).head? ∈ [none, some '#'] ∨ List.replicate (indent + 1) ' ' <+: line))

/-- The section holds entries of these names in this order, each with its key on a line of its own
and its value on that line or indented further below it. -/
structure SectionLayout.Fits (l : SectionLayout) (lines : List (List Char)) (names : List String) :
    Prop where
  opens : ∃ line ∈ lines[l.line]?, ∃ indent < l.indent, WritesKey indent sectionKey line
  ascending : (l.line :: l.rows).Pairwise (· < ·)
  length : l.rows.length = names.length
  keys : ∀ e ∈ names.zip l.rows, ∃ line ∈ lines[e.2]?, WritesKey l.indent e.1 line
  between : ∀ k, (h : k < lines.length) → l.line < k → (∃ row ∈ l.rows, k < row) → k ∉ l.rows →
    Subordinate l.indent lines[k]

instance (l : SectionLayout) (lines : List (List Char)) (names : List String) :
    Decidable (l.Fits lines names) :=
  decidable_of_iff
    ((∃ line ∈ lines[l.line]?, ∃ indent < l.indent, WritesKey indent sectionKey line) ∧
      (l.line :: l.rows).Pairwise (· < ·) ∧ l.rows.length = names.length ∧
      (∀ e ∈ names.zip l.rows, ∃ line ∈ lines[e.2]?, WritesKey l.indent e.1 line) ∧
      ∀ k, (h : k < lines.length) → l.line < k → (∃ row ∈ l.rows, k < row) → k ∉ l.rows →
        Subordinate l.indent lines[k])
    ⟨fun ⟨opens, ascending, length, keys, between⟩ => ⟨opens, ascending, length, keys, between⟩,
      fun h => ⟨h.opens, h.ascending, h.length, h.keys, h.between⟩⟩

section Layouts

variable {lines : List (List Char)} {names : List String} {l : SectionLayout} {name : String}
  {row : Nat}

theorem SectionLayout.Fits.begins_section (hl : l.Fits lines names) :
    Begins lines sectionKey l.line := by
  obtain ⟨line, hline, indent, _, hwrites⟩ := hl.opens
  exact ⟨line, hline, declares_of_writesKey hwrites⟩

theorem SectionLayout.Fits.below (hl : l.Fits lines names) (hmem : (name, row) ∈ names.zip l.rows) :
    l.line < row ∧ Begins lines name row := by
  obtain ⟨line, hline, hwrites⟩ := hl.keys _ hmem
  exact ⟨(List.pairwise_cons.1 hl.ascending).1 row (List.of_mem_zip hmem).2, line, hline,
    declares_of_writesKey hwrites⟩

/-- A line that begins with the name and stands between the section and the entry is the key of
another entry, or no entry at all. -/
theorem SectionLayout.Fits.place (hl : l.Fits lines names)
    (hmem : (name, row) ∈ names.zip l.rows) {k : Nat} (hk : k < row)
    (hbegins : Begins lines name k) :
    k ≤ l.line ∨ k ∈ l.rows ∨ ∃ line ∈ lines[k]?, Subordinate l.indent line := by
  obtain ⟨line, hline, _⟩ := hbegins
  obtain ⟨hlt, rfl⟩ := List.getElem?_eq_some_iff.1 hline
  by_cases habove : k ≤ l.line
  · exact .inl habove
  · by_cases hrow : k ∈ l.rows
    · exact .inr (.inl hrow)
    · exact .inr (.inr ⟨_, hline,
        hl.between k hlt (Nat.lt_of_not_le habove) ⟨row, (List.of_mem_zip hmem).2, hk⟩ hrow⟩)

/-- The line of an entry is at or above the line that the entry is written on. -/
theorem variableLine_of_fits (hl : l.Fits lines names) (hmem : (name, row) ∈ names.zip l.rows)
    (headerLine : Nat) :
    ∃ k ≤ row, variableLine lines headerLine name = headerLine + k ∧ Begins lines name k ∧
      (k = row ↔ ∀ j < row, (∃ i < j, Begins lines sectionKey i) → ¬ Begins lines name j) := by
  obtain ⟨hbelow, hbegins⟩ := hl.below hmem
  obtain ⟨i, hi, hsection⟩ := exists_keyLine? (Nat.zero_le l.line) hl.begins_section
  have hstart : ∀ {j}, sectionStart lines ≤ j ↔ ∃ i < j, Begins lines sectionKey i :=
    sectionStart_le_iff ⟨i, hsection⟩
  obtain ⟨k, hk, hfound⟩ :=
    exists_keyLine? (hstart.2 ⟨l.line, hbelow, hl.begins_section⟩) hbegins
  obtain ⟨hle, hkey, hfirst⟩ := keyLine?_eq_some_iff.1 hfound
  refine ⟨k, hk, by rw [variableLine, hfound], hkey, ?_⟩
  constructor
  · rintro rfl j hj hbelow'
    exact hfirst j (hstart.2 hbelow') hj
  · intro hnone
    rcases Nat.lt_or_eq_of_le hk with hlt | heq
    · exact absurd hkey (hnone k hlt (hstart.1 hle))
    · exact heq

end Layouts

/-! ## Documents -/

namespace Document

variable {text : String} {d : Document}

theorem ofText_of_compile (hd : compile text = .ok d) {header : List Char}
    (hheader : headerText? text = some header) :
    Header.ofText header Sections.firstHeaderLine = .ok d.header := by
  obtain ⟨s, h, hcut, hread, hok⟩ := compile_eq_ok_iff.1 hd
  obtain ⟨_, _, rfl⟩ := ofHeader_eq_ok hok
  rw [headerText?, hcut] at hheader
  rw [headerOf, show s.header = some header from hheader] at hread
  exact hread

end Document

/-- The line of a declaration is that of its own key if and only if no line on the way there, below
the first one that begins with the key of the section, begins with its name. Otherwise it is such a
line: above the entries, or the key of an earlier one, or a line of a value, or a comment. The
symbol has the same line. -/
theorem declared_line_iff {header : List Char} {headerLine : Nat} {h : Header}
    (hok : Header.ofText header headerLine = .ok h) {l : SectionLayout}
    (hl : l.Fits (linesOf header) (h.declarations.map (·.name))) :
    ∀ e ∈ h.declarations.zip l.rows,
      (e.1.line = headerLine + e.2 ↔
        ∀ k < e.2, (∃ j < k, Begins (linesOf header) sectionKey j) →
          ¬ Begins (linesOf header) e.1.name k) ∧
      (e.1.line ≠ headerLine + e.2 →
        ∃ k < e.2, e.1.line = headerLine + k ∧ Begins (linesOf header) e.1.name k ∧
          (k ≤ l.line ∨ k ∈ l.rows ∨
            ∃ line ∈ (linesOf header)[k]?, Subordinate l.indent line)) ∧
      ∀ text d, Document.compile text = .ok d → d.header = h →
        ∃ s, d.symbols.get? (canonicalName e.1.name) = some s ∧ s.line = e.1.line := by
  rintro ⟨decl, row⟩ he
  have hdecl := (List.of_mem_zip he).1
  have hmem : (decl.name, row) ∈ (h.declarations.map (·.name)).zip l.rows := by
    rw [List.zip_map_left]
    exact List.mem_map_of_mem he
  obtain ⟨k, hk, hline, hbegins, hown⟩ := variableLine_of_fits hl hmem headerLine
  rw [← (contents_of_ofText hok).line decl hdecl] at hline
  refine ⟨?_, ?_, ?_⟩
  · rw [← hown, hline]
    exact Nat.add_left_cancel_iff
  · intro hne
    have hlt : k < row := by
      dsimp only at hne
      omega
    exact ⟨k, hlt, hline, hbegins, hl.place hmem hlt hbegins⟩
  · rintro text d hd rfl
    exact ⟨decl.symbol, (Document.symbol_iff hd).2 (.inr ⟨decl, hdecl, rfl, rfl⟩), rfl⟩

/-- A section below another key, whose first entry has a text of several lines. -/
def textAboveText : String :=
  "---\nname: demo\nvariables:\n  \"logs\": |\n    greeting of logs\n  greeting: 'hello'\n---\n"

theorem declared_line_iff_textAbove :
    ∃ d header, Document.compile textAboveText = .ok d ∧
      Document.headerText? textAboveText = some header ∧
      SectionLayout.Fits ⟨1, 2, [2, 4]⟩ (linesOf header) (d.header.declarations.map (·.name)) ∧
      ∀ e ∈ d.header.declarations.zip [2, 4], e.1.line = Sections.firstHeaderLine + e.2 ∧
        ∃ s, d.symbols.get? (canonicalName e.1.name) = some s ∧ s.line = e.1.line := by
  have hmap : (Document.compile textAboveText).toOption.map (·.header.declarations.map (·.name)) =
      some ["logs", "greeting"] := by
    decide +kernel
  obtain ⟨header, hheader, hfits, hnone⟩ : ∃ header,
      Document.headerText? textAboveText = some header ∧
      SectionLayout.Fits ⟨1, 2, [2, 4]⟩ (linesOf header) ["logs", "greeting"] ∧
      ∀ e ∈ ["logs", "greeting"].zip [2, 4], ∀ k < e.2,
        (∃ j < k, Begins (linesOf header) sectionKey j) → ¬ Begins (linesOf header) e.1 k :=
    ⟨_, rfl, by decide +kernel, by decide +kernel⟩
  obtain ⟨d, hd, hnames⟩ := Document.compiled_of_map hmap
  rw [← hnames] at hfits hnone
  refine ⟨d, header, hd, hheader, hfits, fun e he => ?_⟩
  have hok := Document.ofText_of_compile hd hheader
  obtain ⟨hline, _, hsymbol⟩ := declared_line_iff hok hfits e he
  refine ⟨hline.2 (hnone (e.1.name, e.2) ?_), hsymbol _ d hd rfl⟩
  rw [List.zip_map_left]
  exact List.mem_map_of_mem he

/-- A variable after one whose value has a key of the same name. -/
def nestedKeyText : String := "---\nvariables:\n  a:\n    b: 1\n  b: 2\n---\n"

/-- The key of `b` is on line 5, but line 4 is recorded for it. -/
theorem nested_key_comes_first :
    ∃ d header, Document.compile nestedKeyText = .ok d ∧
      Document.headerText? nestedKeyText = some header ∧
      SectionLayout.Fits ⟨0, 2, [1, 3]⟩ (linesOf header) (d.header.declarations.map (·.name)) ∧
      (d.header.declarations.zip [1, 3]).map
        (fun e => (e.1.name, e.1.line, Sections.firstHeaderLine + e.2)) =
          [("a", 3, 3), ("b", 4, 5)] ∧
      (d.symbols.get? "b").map (·.line) = some 4 := by
  have hmap : (Document.compile nestedKeyText).toOption.map (fun d =>
      (d.header.declarations.map (·.name),
        (d.header.declarations.zip [1, 3]).map
          (fun e => (e.1.name, e.1.line, Sections.firstHeaderLine + e.2)),
        (d.symbols.get? "b").map (·.line))) =
      some (["a", "b"], [("a", 3, 3), ("b", 4, 5)], some 4) := by
    decide +kernel
  obtain ⟨header, hheader, hfits⟩ : ∃ header, Document.headerText? nestedKeyText = some header ∧
      SectionLayout.Fits ⟨0, 2, [1, 3]⟩ (linesOf header) ["a", "b"] := ⟨_, rfl, by decide +kernel⟩
  obtain ⟨d, hd, hread⟩ := Document.compiled_of_map hmap
  simp only [Prod.mk.injEq] at hread
  obtain ⟨hnames, hlines, hsymbol⟩ := hread
  exact ⟨d, header, hd, hheader, by rw [hnames]; exact hfits, hlines, hsymbol⟩

end PromptScript
