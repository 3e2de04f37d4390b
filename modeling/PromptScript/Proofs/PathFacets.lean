import Mathlib.Data.List.TakeWhile
import PromptScript.Proofs.Encoding
import PromptScript.Proofs.FilePaths
import PromptScript.Proofs.Invocations

/-!
# Proofs.PathFacets

What the facets of an item say of its path. The path of a file is the parent, a slash and the name,
and the name is the stem and the extension with a dot between them (`Decomposes`). Of any text the
name is the last proper name in it (`Named`). Both `sort` and `xargs` take name and extension from
there, the one as a text if they are one, the other with marks: the parts of a text are texts, so
that they come to the same (`facets_of_item`).
-/

namespace PromptScript

open PromptScript.Path (slash dot dots)

/-! ## Extensions -/

/-- A name is cut at its last dot, unless that is its first byte. -/
inductive CutAtDot : Bytes → Bytes → Bytes → Prop where
  | whole {name : Bytes} : (∀ stem extension, stem ≠ [] → name ≠ stem ++ dot :: extension) →
      CutAtDot name name []
  | cut {stem extension : Bytes} : stem ≠ [] → dot ∉ extension →
      CutAtDot (stem ++ dot :: extension) stem extension

/-- What stands behind the last dot of a name, and what in front of it. -/
theorem lastDot_cases (name : Bytes) :
    (dot ∉ name ∧ name.reverse.dropWhile (· ≠ dot) = []) ∨
      ∃ stem extension, name = stem ++ dot :: extension ∧ dot ∉ extension ∧
        name.reverse.dropWhile (· ≠ dot) = dot :: stem.reverse ∧
        name.reverse.takeWhile (· ≠ dot) = extension.reverse := by
  have hsplit :=
    List.takeWhile_append_dropWhile (p := fun b => decide (b ≠ dot)) (l := name.reverse)
  have hfirst := List.head?_dropWhile_not (fun b => decide (b ≠ dot)) name.reverse
  have hfree : dot ∉ name.reverse.takeWhile (· ≠ dot) := by
    intro hmem
    simpa using List.all_eq_true.1 List.all_takeWhile _ hmem
  cases hdrop : name.reverse.dropWhile (· ≠ dot) with
  | nil =>
    rw [hdrop, List.append_nil] at hsplit
    refine .inl ⟨fun hmem => hfree ?_, rfl⟩
    rw [hsplit]
    exact List.mem_reverse.2 hmem
  | cons b rest =>
    rw [hdrop] at hsplit hfirst
    obtain rfl : b = dot := by simpa using hfirst
    refine .inr ⟨rest.reverse, (name.reverse.takeWhile (· ≠ dot)).reverse, ?_, ?_, ?_, ?_⟩
    · rw [← List.reverse_inj, List.reverse_append, List.reverse_cons, List.reverse_reverse,
        List.reverse_reverse, List.append_assoc, List.singleton_append]
      exact hsplit.symm
    · exact fun hmem => hfree (List.mem_reverse.1 hmem)
    · rw [List.reverse_reverse]
    · rw [List.reverse_reverse]

theorem cutAtDot_cutExtension (name : Bytes) :
    CutAtDot name (Path.cutExtension name).1 ((Path.cutExtension name).2.getD []) := by
  rw [Path.cutExtension]
  rcases lastDot_cases name with ⟨hfree, hdrop⟩ | ⟨stem, extension, rfl, hfree, hdrop, htake⟩
  · rw [hdrop]
    refine .whole fun stem extension _ heq => hfree ?_
    simp [heq]
  · rw [hdrop, htake]
    cases hstem : stem.reverse with
    | nil =>
      -- the only dot comes first
      obtain rfl := List.reverse_eq_nil_iff.1 hstem
      refine .whole fun stem more hne heq => hfree ?_
      obtain ⟨b, stem, rfl⟩ := List.exists_cons_of_ne_nil hne
      rw [List.nil_append, List.cons_append] at heq
      rw [(List.cons.inj heq).2]
      simp
    | cons b rest =>
      dsimp only
      rw [← hstem, List.reverse_reverse, List.reverse_reverse]
      exact .cut (fun hnil => by simp [hnil] at hstem) hfree

namespace CutAtDot

variable {name stem extension : Bytes}

theorem stem_ne_nil (h : CutAtDot name stem extension) (hname : name ≠ []) : stem ≠ [] := by
  cases h with
  | whole _ => exact hname
  | cut hstem _ => exact hstem

theorem dot_notMem (h : CutAtDot name stem extension) : dot ∉ extension := by
  cases h with
  | whole _ => exact List.not_mem_nil
  | cut _ hfree => exact hfree

theorem name_eq (h : CutAtDot name stem extension) :
    name = stem ∧ extension = [] ∨ name = stem ++ dot :: extension := by
  cases h with
  | whole _ => exact .inl ⟨rfl, rfl⟩
  | cut _ _ => exact .inr rfl

/-- A dot is a character of its own, so that the parts of a text are texts. -/
theorem isText (h : CutAtDot name stem extension) (hname : IsText name) :
    IsText stem ∧ IsText extension := by
  cases h with
  | whole _ => exact ⟨hname, isText_nil⟩
  | cut _ _ => exact isText_of_append_cons (by decide) hname

end CutAtDot

/-! ## Names -/

/-- The last of the names that stands for something. -/
inductive LastName : List Bytes → Bytes → Prop where
  | intro (before : List Bytes) {name : Bytes} {after : List Bytes} :
      Path.isIdle name = false → (∀ n ∈ after, Path.isIdle n = true) →
        LastName (before ++ name :: after) name

theorem lastName_iff {names : List Bytes} {name : Bytes} :
    LastName names name ↔ (names.reverse.dropWhile Path.isIdle).head? = some name := by
  constructor
  · rintro ⟨before, hname, hafter⟩
    rw [List.reverse_append, List.reverse_cons, List.append_assoc, List.dropWhile_append_of_pos
      fun n hn => hafter n (List.mem_reverse.1 hn), List.singleton_append,
      List.dropWhile_cons_of_neg (by simp [hname]), List.head?_cons]
  · intro h
    obtain ⟨before, hdrop⟩ := List.head?_eq_some_iff.1 h
    have hname := List.head?_dropWhile_not Path.isIdle names.reverse
    have hsplit := List.takeWhile_append_dropWhile (p := Path.isIdle) (l := names.reverse)
    rw [hdrop] at hname hsplit
    have hnames := congrArg List.reverse hsplit.symm
    rw [List.reverse_reverse, List.reverse_append, List.reverse_cons, List.append_assoc,
      List.singleton_append] at hnames
    rw [hnames]
    refine .intro before.reverse hname fun n hn => ?_
    exact List.all_eq_true.1 List.all_takeWhile n (List.mem_reverse.1 hn)

theorem LastName.unique {names : List Bytes} {name name' : Bytes} (h : LastName names name)
    (h' : LastName names name') : name = name' :=
  Option.some.inj ((lastName_iff.1 h).symm.trans (lastName_iff.1 h'))

theorem LastName.mem {names : List Bytes} {name : Bytes} (h : LastName names name) :
    name ∈ names := by
  obtain ⟨before, _, _⟩ := h
  exact List.mem_append_right _ List.mem_cons_self

/-- An idle name at the front makes no difference. -/
theorem lastName_cons_iff {first : Bytes} {names : List Bytes} {name : Bytes}
    (hfirst : Path.isIdle first = true) : LastName (first :: names) name ↔ LastName names name := by
  rw [lastName_iff, lastName_iff, List.reverse_cons, List.dropWhile_append,
    List.dropWhile_cons_of_pos hfirst, List.dropWhile_nil]
  split
  · rename_i hempty
    rw [List.isEmpty_iff.1 hempty]
  · rename_i hsome
    cases hdrop : names.reverse.dropWhile Path.isIdle with
    | nil => simp [hdrop] at hsome
    | cons n rest => rfl

/-- A `.` at the very start leaves an empty name behind. -/
theorem fields_drop_of_dot {path : Bytes} {more : List Bytes}
    (h : fields slash path = [dot] :: more) : fields slash (path.drop 1) = [] :: more := by
  cases path with
  | nil => cases h
  | cons b rest =>
    rw [fields] at h
    split at h
    · cases (List.cons.inj h).1
    · rw [List.drop_one, List.tail_cons]
      split at h
      · rename_i hfields
        exact absurd hfields (fields_ne_nil slash rest)
      · rename_i first others hfields
        obtain ⟨hfirst, rfl⟩ := List.cons.inj h
        rw [hfields, (List.cons.inj hfirst).2]

/-- Behind its opening a path has the same last name. -/
theorem lastName_opening_iff {path name : Bytes} :
    LastName (fields slash (path.drop (Path.opening path).length)) name ↔
      LastName (fields slash path) name := by
  rw [Path.opening]
  split
  · rename_i hslash
    obtain ⟨rest, rfl⟩ := List.head?_eq_some_iff.1 hslash
    rw [fields.eq_2 slash slash rest, if_pos rfl, lastName_cons_iff (by rfl)]
    rfl
  · split
    · rename_i hdot
      obtain ⟨more, hmore⟩ := List.head?_eq_some_iff.1 hdot
      rw [List.length_singleton, fields_drop_of_dot hmore, hmore, lastName_cons_iff (by rfl),
        lastName_cons_iff (by rfl)]
    · rfl

/-- The name at the end of a path, which leads to nothing above. -/
def Named (path name : Bytes) : Prop := LastName (fields slash path) name ∧ name ≠ dots

theorem fileName?_eq_some_iff {path name : Bytes} :
    Path.fileName? path = some name ↔ Named path name := by
  rw [Path.fileName?, Named, ← lastName_opening_iff, lastName_iff, ← Path.namesBack]
  cases Path.namesBack path with
  | nil => simp
  | cons last before =>
    rw [List.head?_cons, Option.some.injEq]
    by_cases hdots : last = dots
    · simp only [if_pos hdots, reduceCtorEq, false_iff, not_and, not_not]
      exact fun heq => heq ▸ hdots
    · simp only [if_neg hdots, Option.some.injEq]
      exact ⟨fun heq => ⟨heq, heq ▸ hdots⟩, And.left⟩

/-- The extension is that of the name. A path without a name has neither. -/
theorem fileName?_cases (path : Bytes) :
    (∃ name, Named path name ∧ Path.fileName? path = some name ∧
      Path.extension? path = (Path.cutExtension name).2) ∨
    (∀ name, ¬ Named path name) ∧ Path.fileName? path = none ∧ Path.extension? path = none := by
  rw [Path.extension?]
  cases hname : Path.fileName? path with
  | none =>
    refine .inr ⟨fun name hnamed => ?_, rfl, rfl⟩
    rw [fileName?_eq_some_iff.2 hnamed] at hname
    cases hname
  | some name => exact .inl ⟨name, fileName?_eq_some_iff.1 hname, rfl, rfl⟩

/-! ## Parts of texts -/

/-- A part that is a text is the same for `sort` and for `xargs`. -/
theorem shownPart_eq {part : Option Bytes} (h : ∀ bs, part = some bs → IsText bs) :
    Facets.shownPart part = (part.bind Utf8.text?).getD "" := by
  cases part with
  | none => rfl
  | some bs =>
    rw [Option.bind_some, (h bs rfl).text?_eq]
    rfl

theorem textBytes_part {part : Option Bytes} (h : ∀ bs, part = some bs → IsText bs) :
    textBytes ((part.bind Utf8.text?).getD "") = part.getD [] := by
  cases part with
  | none => rfl
  | some bs =>
    rw [Option.bind_some, (h bs rfl).text?_eq]
    exact isText_iff.1 (h bs rfl)

theorem shownPart_eq_shown (part : Option Bytes) :
    Facets.shownPart part = Utf8.shown (part.getD []) := by
  cases part <;> rfl

theorem Named.isText {path name : Bytes} (h : Named path name) (hpath : IsText path) :
    IsText name :=
  isText_of_mem_fields (by decide) hpath h.1.mem

theorem isText_of_fileName? {item : String} {name : Bytes}
    (h : Path.fileName? (textBytes item) = some name) : IsText name :=
  (fileName?_eq_some_iff.1 h).isText (isText_textBytes item)

theorem isText_of_extension? {item : String} {extension : Bytes}
    (h : Path.extension? (textBytes item) = some extension) : IsText extension := by
  rw [Path.extension?] at h
  obtain ⟨name, hname, hcut⟩ := Option.bind_eq_some_iff.1 h
  have htext := ((cutAtDot_cutExtension name).isText (isText_of_fileName? hname)).2
  rwa [hcut] at htext

/-! ## Paths of files -/

/-- The parts of a path make up the whole of it. -/
structure Decomposes (item : String) (f : Facets) : Prop where
  path : f.path = item
  parent : (if f.parent = "" then f.name else f.parent ++ "/" ++ f.name) = item
  stem : f.stem ≠ ""
  extension : '.' ∉ f.extension.toList
  name : f.name = f.stem ∧ f.extension = "" ∨ f.name = f.stem ++ "." ++ f.extension

section Files

variable {path last : Bytes} {before : List Bytes}

theorem opening_eq_nil (h : ∀ n ∈ fields slash path, Path.isIdle n = false) :
    Path.opening path = [] := by
  have hslash : path.head? ≠ some slash := by
    intro hhead
    obtain ⟨rest, rfl⟩ := List.head?_eq_some_iff.1 hhead
    exact absurd (h [] (by simp [fields])) (by decide)
  have hdot : (fields slash path).head? ≠ some [dot] := by
    intro hhead
    obtain ⟨more, hmore⟩ := List.head?_eq_some_iff.1 hhead
    exact absurd (h [dot] (by simp [hmore])) (by decide)
  rw [Path.opening, if_neg hslash, if_neg hdot]

/-- The last of several proper names is the name of the path, the others are its parent. -/
theorem parts_of_fields (hfields : fields slash path = before ++ [last])
    (hnames : ∀ n ∈ before ++ [last], IsFileName n) :
    Path.fileName? path = some last ∧ Path.parent? path = some (joinFields [slash] before) := by
  have hidle : ∀ n ∈ before ++ [last], Path.isIdle n = false :=
    fun n hn => Bool.not_eq_true _ ▸ (hnames n hn).not_isIdle
  have hopening : Path.opening path = [] := opening_eq_nil (hfields ▸ hidle)
  have hback : Path.namesBack path = last :: before.reverse := by
    rw [Path.namesBack, hopening, List.length_nil, List.drop_zero, hfields, List.reverse_append,
      List.reverse_singleton, List.singleton_append,
      List.dropWhile_cons_of_neg (by simp [hidle last (by simp)])]
  have hbefore : before.reverse.dropWhile Path.isIdle = before.reverse := by
    refine List.dropWhile_eq_self_iff.2 fun hlength => ?_
    rw [hidle _ (List.mem_append_left _ (List.mem_reverse.1 (List.getElem_mem hlength)))]
    exact Bool.false_ne_true
  constructor
  · simp only [Path.fileName?, hback, if_neg (hnames last (by simp)).ne_dots]
  · simp only [Path.parent?, hback, hopening, hbefore, List.reverse_reverse, List.nil_append]

theorem joinFields_concat {sep : UInt8} (hbefore : before ≠ []) (last : Bytes) :
    joinFields [sep] (before ++ [last]) = joinFields [sep] before ++ sep :: last := by
  induction before with
  | nil => exact absurd rfl hbefore
  | cons first rest ih =>
    cases rest with
    | nil => simp [joinFields]
    | cons next rest => simpa [joinFields] using ih (List.cons_ne_nil _ _)

theorem joinFields_ne_nil {sep : UInt8} {pieces : List Bytes} (hne : pieces ≠ [])
    (h : ∀ piece ∈ pieces, piece ≠ []) : joinFields [sep] pieces ≠ [] := by
  cases pieces with
  | nil => exact absurd rfl hne
  | cons piece rest =>
    have hpiece := h piece List.mem_cons_self
    cases rest with
    | nil => exact hpiece
    | cons next rest => simp [joinFields]

/-- A name that is a text and the parts it is cut into, as texts. -/
theorem texts_of_cut {stem extension : Bytes} (hcut : CutAtDot last stem extension)
    (hlast : IsText last) :
    Utf8.shown last = Utf8.shown stem ∧ Utf8.shown extension = "" ∨
      Utf8.shown last = Utf8.shown stem ++ "." ++ Utf8.shown extension := by
  obtain ⟨hstem, hextension⟩ := hcut.isText hlast
  refine hcut.name_eq.imp (fun ⟨heq, hnil⟩ => ⟨congrArg _ heq, by rw [hnil]; rfl⟩) fun heq => ?_
  rw [← textBytes_inj, textBytes_append, textBytes_append, isText_iff.1 hlast,
    isText_iff.1 hstem, isText_iff.1 hextension, heq, List.append_assoc]
  rfl

/-- The facets of a path whose last name is a text, as the texts of its parts. -/
theorem ofItem_eq {item : String} {name parent : Bytes}
    (hname : Path.fileName? (textBytes item) = some name)
    (hparent : Path.parent? (textBytes item) = some parent) :
    Facets.ofItem item = ⟨item, Utf8.shown name, Utf8.shown (Path.cutExtension name).1,
      Utf8.shown ((Path.cutExtension name).2.getD []), Utf8.shown parent⟩ := by
  have hextension : Path.extension? (textBytes item) = (Path.cutExtension name).2 := by
    rw [Path.extension?, hname]
    rfl
  have hstem : Path.stem? (textBytes item) = some (Path.cutExtension name).1 := by
    rw [Path.stem?, hname]
    rfl
  simp only [Facets.ofItem, hname, hparent, hextension, hstem, shownPart_eq_shown, Option.getD_some]

theorem textBytes_joinTexts_concat (before : List String) (last : String) :
    textBytes (joinTexts "/" (before ++ [last])) =
      joinFields [slash] (before.map textBytes ++ [textBytes last]) := by
  rw [textBytes_joinTexts, List.map_append]
  rfl

/-- Joined names are the last name behind the others, with a slash between them if there are any. -/
theorem joinTexts_concat {before : List String} (hbefore : ∀ name ∈ before, textBytes name ≠ [])
    (last : String) : joinTexts "/" (before ++ [last]) =
      if joinTexts "/" before = "" then last else joinTexts "/" before ++ "/" ++ last := by
  by_cases hnil : before = []
  · subst hnil
    have hempty : joinTexts "/" [] = "" := rfl
    rw [if_pos hempty, ← textBytes_inj]
    exact textBytes_joinTexts_concat [] last
  · have hmap : before.map textBytes ≠ [] := by simpa using hnil
    have hparent : joinTexts "/" before ≠ "" := by
      rw [Ne, ← textBytes_inj, textBytes_joinTexts]
      exact joinFields_ne_nil hmap (List.forall_mem_map.2 hbefore)
    rw [if_neg hparent, ← textBytes_inj, textBytes_joinTexts_concat, textBytes_append,
      textBytes_append, textBytes_joinTexts, joinFields_concat hmap, List.append_assoc]
    rfl

theorem decomposes_joinTexts {names : List String} (hne : names ≠ [])
    (hnames : ∀ name ∈ names, IsFileName (textBytes name)) :
    Decomposes (joinTexts "/" names) (Facets.ofItem (joinTexts "/" names)) := by
  obtain rfl | ⟨before, last, rfl⟩ := List.eq_nil_or_concat names
  · exact absurd rfl hne
  rw [List.concat_eq_append] at hnames ⊢
  have hfiles : ∀ n ∈ before.map textBytes ++ [textBytes last], IsFileName n := by
    rw [← List.map_singleton, ← List.map_append]
    exact List.forall_mem_map.2 hnames
  have hfields : fields slash (textBytes (joinTexts "/" (before ++ [last]))) =
      before.map textBytes ++ [textBytes last] := by
    rw [textBytes_joinTexts_concat,
      fields_joinFields (by simp) fun piece hpiece => (hfiles piece hpiece).slash_notMem]
  obtain ⟨hname, hparent⟩ := parts_of_fields hfields hfiles
  have hcut := cutAtDot_cutExtension (textBytes last)
  obtain ⟨hstem, hextension⟩ := hcut.isText (isText_textBytes last)
  have hshown : Utf8.shown (joinFields [slash] (before.map textBytes)) = joinTexts "/" before := by
    rw [← Utf8.shown_textBytes (joinTexts "/" before), textBytes_joinTexts]
    rfl
  rw [ofItem_eq hname hparent, hshown]
  refine ⟨rfl, ?_, ?_, ?_, texts_of_cut hcut (isText_textBytes last)⟩
  · dsimp only
    rw [Utf8.shown_textBytes]
    refine (joinTexts_concat (fun name hname => ?_) last).symm
    exact (hnames name (List.mem_append_left _ hname)).ne_empty
  · dsimp only
    rw [Ne, ← textBytes_inj, isText_iff.1 hstem]
    exact hcut.stem_ne_nil (hnames last (by simp)).ne_empty
  · dsimp only
    intro hmem
    refine hcut.dot_notMem ?_
    rw [← isText_iff.1 hextension]
    exact List.mem_flatMap.2 ⟨'.', hmem, by decide⟩

end Files

/-! ## What `sort` and `xargs` take -/

/-- The position among the variables of `xargs` whose variable is bound to what a key looks at. -/
def SortKey.position : SortKey → Nat
  | .path => 0
  | .name => 1
  | .extension => 3

/-- A key looks at the facet in its position. -/
theorem getElem?_position (k : SortKey) (item : String) :
    (Facets.ofItem item).toList[k.position]? = some (k.extract item) := by
  cases k with
  | path => rfl
  | name => exact congrArg some (shownPart_eq fun _ => isText_of_fileName?)
  | extension => exact congrArg some (shownPart_eq fun _ => isText_of_extension?)

/-- The variable that an `xargs` with these binds at a position: no later one has its name. -/
def BoundAt (variableNames : List String) (position : Nat) (name : String) : Prop :=
  variableNames[position]? = some name ∧
    ∀ j < 5, position < j → variableNames[j]? ≠ some name

instance (variableNames : List String) (position : Nat) (name : String) :
    Decidable (BoundAt variableNames position name) :=
  inferInstanceAs (Decidable (_ ∧ _))

/-- A key looks at the text that `xargs` binds at the position of the key. -/
theorem binding_eq_extract {variableNames : List String} {k : SortKey} {name : String}
    (h : BoundAt variableNames k.position name) (item : String) :
    (Invocation.ofItem variableNames item).bindings.get? name = some (k.extract item) :=
  (bindings_ofItem_iff variableNames item name _).2 ⟨k.position, h.1, getElem?_position k item,
    fun j hlater hfacet => h.2 j hfacet hlater⟩

/-- The facets of an item that joins proper names make up its path again. Of every item, the keys
that `sort` looks at are its facets, and so what `xargs` binds; the name is the one at the end of
the path, and the extension what stands behind its last dot. -/
theorem facets_of_item (item : String) :
    (∀ names : List String, names ≠ [] → (∀ name ∈ names, IsFileName (textBytes name)) →
      item = joinTexts "/" names → Decomposes item (Facets.ofItem item)) ∧
    (SortKey.name.extract item = (Facets.ofItem item).name ∧
      SortKey.extension.extract item = (Facets.ofItem item).extension) ∧
    (∀ variableNames k name, BoundAt variableNames (SortKey.position k) name →
      (Invocation.ofItem variableNames item).bindings.get? name = some (k.extract item)) ∧
    ∃ stem, CutAtDot (textBytes (SortKey.name.extract item)) stem
        (textBytes (SortKey.extension.extract item)) ∧
      (Named (textBytes item) (textBytes (SortKey.name.extract item)) ∨
        SortKey.name.extract item = "" ∧ ∀ name, ¬ Named (textBytes item) name) := by
  refine ⟨?_, ⟨?_, ?_⟩, fun variableNames k name h => binding_eq_extract h item, ?_⟩
  · rintro names hne hnames rfl
    exact decomposes_joinTexts hne hnames
  · exact (Option.some.inj (getElem?_position .name item)).symm
  · exact (Option.some.inj (getElem?_position .extension item)).symm
  · have hnameBytes : textBytes (SortKey.name.extract item) =
        (Path.fileName? (textBytes item)).getD [] := textBytes_part fun _ => isText_of_fileName?
    have hextensionBytes : textBytes (SortKey.extension.extract item) =
        (Path.extension? (textBytes item)).getD [] :=
      textBytes_part fun _ => isText_of_extension?
    rw [hnameBytes, hextensionBytes]
    rcases fileName?_cases (textBytes item) with
      ⟨name, hnamed, hname, hextension⟩ | ⟨hnone, hname, hextension⟩
    · rw [hname, hextension]
      exact ⟨_, cutAtDot_cutExtension name, .inl hnamed⟩
    · rw [hname, hextension, SortKey.extract, hname]
      exact ⟨[], .whole (by simp), .inr ⟨rfl, hnone⟩⟩

theorem facets_of_item_nested :
    Decomposes "src/.d/a.b.kt" (Facets.ofItem "src/.d/a.b.kt") ∧
      (Facets.ofItem "src/.d/a.b.kt").toList = ["src/.d/a.b.kt", "a.b.kt", "a.b", "kt", "src/.d"] ∧
      (Invocation.ofItem ["path", "name", "stem", "ext"] "a/./b.kt/").bindings.get? "ext" =
        some "kt" := by
  obtain ⟨hdecomposes, _⟩ := facets_of_item "src/.d/a.b.kt"
  obtain ⟨_, _, hbound, _⟩ := facets_of_item "a/./b.kt/"
  refine ⟨hdecomposes ["src", ".d", "a.b.kt"] (by decide) (by decide +kernel) (by decide),
    by decide +kernel, ?_⟩
  rw [hbound ["path", "name", "stem", "ext"] .extension "ext" (by decide)]
  decide +kernel

end PromptScript
