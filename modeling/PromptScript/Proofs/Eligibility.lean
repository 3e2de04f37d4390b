import PromptScript.Proofs.DirectoryListing

/-!
# Proofs.Eligibility

The two faces of a source of files: what it lists, and which paths it says are items. What is listed
is an item. The converse holds of the straight paths only (`listed_iff_eligible`): a single path is
looked up with `.` and links to directories passed through, so that a file which the walk does not
come to, or comes to by another path, is an item by this one.
-/

namespace PromptScript

open PromptScript.Path (slash dot dots)

namespace Place

variable {p q : Place}

/-- The directory and those above it are well named. -/
structure WellNamed (p : Place) : Prop where
  entries : EntriesWellNamed p.entries
  above : ∀ entries ∈ p.above, EntriesWellNamed entries

theorem wellNamed_outside : outside.WellNamed := ⟨trivial, fun _ h => absurd h List.not_mem_nil⟩

theorem WellNamed.parent (h : p.WellNamed) : p.parent.WellNamed := by
  unfold Place.parent
  split
  · exact wellNamed_outside
  · rename_i entries above habove
    have hall : ∀ e ∈ entries :: above, EntriesWellNamed e := habove ▸ h.above
    exact ⟨hall _ List.mem_cons_self, fun e he => hall e (List.mem_cons_of_mem _ he)⟩

theorem WellNamed.enter (h : p.WellNamed) {entries : List (Bytes × FileNode)}
    (hentries : EntriesWellNamed entries) : (p.enter entries).WellNamed :=
  ⟨hentries, List.forall_mem_cons.2 ⟨h.entries, h.above⟩⟩

end Place

/-! ## Directories that are looked up -/

/-- Looking up leads to well-named directories only. -/
def StaysNamed (look : Place → List Bytes → Lookup Target) : Prop :=
  ∀ p names q, p.WellNamed → look p names = .ok (.directory q) → q.WellNamed

theorem staysNamed_lookUpNames {follow : Place → List Bytes → Lookup Target} {followLast : Bool}
    (hfollow : StaysNamed follow) : StaysNamed (lookUpNames follow followLast) := by
  intro p names
  induction names generalizing p with
  | nil =>
    intro q hp h
    cases h
    exact hp
  | cons name rest ih =>
    intro q hp h
    rw [lookUpNames] at h
    split at h
    · exact ih p q hp h
    · split at h
      · exact ih p.parent q hp.parent h
      · split at h
        · cases h
        · split at h <;> cases h
        · split at h <;> cases h
        · rename_i entries hlookup
          have hmem := hp.entries.lookup_eq_some_iff.1 hlookup
          exact ih (p.enter entries) q (hp.enter (hp.entries.of_mem hmem).2) h
        · split at h <;> cases h
        · rename_i target hlookup
          split at h
          · cases h
          · refine hfollow _ _ q ?_ h
            split
            · exact Place.wellNamed_outside
            · exact hp

theorem staysNamed_lookUpWithin (links : Nat) (followLast : Bool) :
    StaysNamed (lookUpWithin links followLast) := by
  induction links with
  | zero => exact staysNamed_lookUpNames fun _ _ _ _ h => by cases h
  | succ links ih => exact staysNamed_lookUpNames ih

theorem Place.WellNamed.directory {p q : Place} (hp : p.WellNamed) {path : Bytes}
    (h : p.directory path = .ok q) : q.WellNamed := by
  have hlook := directory_eq_ok_iff.1 h
  rw [Place.lookUp] at hlook
  split at hlook
  · cases hlook
  · refine staysNamed_lookUpWithin _ _ _ _ q ?_ hlook
    split
    · exact wellNamed_outside
    · exact hp

/-! ## Files that are looked up -/

section Files

variable {follow : Place → List Bytes → Lookup Target} {followLast : Bool} {p : Place}
  {names : List Bytes} {bytes : ByteArray}

/-- A file that names lead to is found by them. -/
theorem lookUpNames_of_leads (hp : p.WellNamed) (h : p.node.Leads names (.file bytes)) :
    lookUpNames follow followLast p names = .ok (.file bytes) := by
  induction names generalizing p with
  | nil => cases h
  | cons name rest ih =>
    rw [Place.node] at h
    cases h with
    | @enter _ _ _ child _ hlookup hleads =>
      obtain ⟨hname, hchild⟩ := hp.entries.of_mem (hp.entries.lookup_eq_some_iff.1 hlookup)
      rw [lookUpNames, if_neg hname.not_isIdle, if_neg hname.ne_dots, hlookup]
      cases hleads with
      | here => rfl
      | @enter entries _ _ _ _ hlookup' hleads' =>
        exact ih (hp.enter hchild) (.enter hlookup' hleads')

/-- A file that is found by names which are none of `.`, `..` and the empty one is one that they
lead to, unless a link is on the way. -/
theorem leads_of_lookUpNames
    (hnames : ∀ name ∈ names, name ≠ [] ∧ name ≠ [dot] ∧ name ≠ dots)
    (hunlinked : ∀ above below target, names = above ++ below → below ≠ [] →
      ¬ p.node.Leads above (.link target))
    (h : lookUpNames follow false p names = .ok (.file bytes)) :
    p.node.Leads names (.file bytes) := by
  induction names generalizing p with
  | nil => cases h
  | cons name rest ih =>
    obtain ⟨⟨hempty, hdot, hdots⟩, hrest⟩ := List.forall_mem_cons.1 hnames
    rw [lookUpNames, if_neg (mt Path.isIdle_eq_true_iff.1 (not_or.2 ⟨hempty, hdot⟩)),
      if_neg hdots] at h
    cases hlookup : p.entries.lookup name with
    | none => rw [hlookup] at h; cases h
    | some child =>
      rw [hlookup] at h
      refine .enter hlookup ?_
      cases child with
      | file bytes' =>
        dsimp only at h
        split at h
        · rename_i hlast
          cases h
          rw [List.isEmpty_iff.1 hlast]
          exact .here _
        · cases h
      | lockedFile =>
        dsimp only at h
        split at h <;> cases h
      | lockedDirectory =>
        dsimp only at h
        split at h <;> cases h
      | directory entries =>
        refine ih (p := p.enter entries) hrest ?_ h
        rintro above below target rfl hbelow hleads
        exact hunlinked (name :: above) below target rfl hbelow (.enter hlookup hleads)
      | link target =>
        cases rest with
        | nil => cases h
        | cons next rest =>
          exact absurd (.enter hlookup (.here _))
            (hunlinked [name] (next :: rest) target rfl (List.cons_ne_nil _ _))

end Files

/-! ## Both faces -/

/-- The path has no `.` on it, and no name before its last leads to a link. -/
structure Place.Straight (p : Place) (path : Bytes) : Prop where
  dot_notMem : [dot] ∉ pathNames path
  unlinked : ∀ above below target, pathNames path = above ++ below → below ≠ [] →
    ¬ p.node.Leads above (.link target)

/-- What is real has no links on the way to it. -/
theorem FileNode.Leads.not_link {node target : FileNode} {above below : List Bytes} {path : Bytes}
    (h : node.Leads (above ++ below) target) (hbelow : below ≠ []) :
    ¬ node.Leads above (.link path) := by
  induction above generalizing node with
  | nil =>
    intro hlink
    cases hlink
    cases below with
    | nil => exact hbelow rfl
    | cons name below => cases h
  | cons name above ih =>
    intro hlink
    cases h with
    | enter hlookup hleads =>
      cases hlink with
      | enter hlookup' hleads' =>
        rw [hlookup] at hlookup'
        cases hlookup'
        exact ih hleads hleads'

theorem pathNames_textBytes (path : String) :
    pathNames (textBytes path) = (fields '/' path.toList).map utf8 :=
  fields_utf8 (by decide) (by decide) path.toList

/-- The path of the names on a text is the text. -/
theorem itemPath_pathNames (path : String) : itemPath (pathNames (textBytes path)) = path := by
  have htext : ∀ name ∈ pathNames (textBytes path), IsText name :=
    fun name hname => isText_of_mem_fields (by decide) (isText_textBytes path) hname
  rw [← textBytes_inj, itemPath, textBytes_joinTexts, map_textBytes_shown htext]
  exact joinFields_fields slash (textBytes path)

/-- The parts of a text between slashes are the names on it. -/
theorem mem_pathNames_iff {path : String} {name : Bytes} :
    name ∈ pathNames (textBytes path) ↔
      ∃ part ∈ (fields '/' path.toList).map String.ofList, textBytes part = name := by
  rw [pathNames_textBytes]
  simp [textBytes]

theorem admitsPath_eq_true_iff {l : Limits} {path : String} :
    l.admitsPath path = true ↔ ∀ name ∈ pathNames (textBytes path),
      name ≠ [] ∧ name ≠ dots ∧ Utf8.shown name ∉ l.ignore := by
  have hempty : ∀ part : String, textBytes part = [] ↔ part = "" :=
    fun part => textBytes_inj (t := "")
  have hdots : ∀ part : String, textBytes part = dots ↔ part = ".." :=
    fun part => textBytes_inj (t := "..")
  simp only [Limits.admitsPath, List.all_eq_true, Bool.and_eq_true, bne_iff_ne, ne_eq, and_assoc,
    Limits.admitsName_eq_true_iff, mem_pathNames_iff, forall_exists_index, and_imp,
    forall_apply_eq_imp_iff₂, hempty, hdots, Utf8.shown_textBytes]

theorem isItem_eq_true_iff {s : FileSource} {place : Place}
    (h : s.start.directory s.root = .ok place) :
    ∃ follow, ∀ path, s.isItem path = true ↔ s.limits.admitsPath path = true ∧
      ∃ bytes, lookUpNames follow false place (pathNames (textBytes path)) = .ok (.file bytes) ∧
        s.limits.admits bytes = true := by
  obtain ⟨follow, hfollow⟩ := lookUp_joinPath h
  refine ⟨follow, fun path => ?_⟩
  rw [FileSource.isItem, Bool.and_eq_true, hfollow]
  refine and_congr_right fun _ => ?_
  constructor
  · intro hitem
    split at hitem
    · rename_i bytes hlook
      exact ⟨bytes, hlook, hitem⟩
    · cases hitem
  · rintro ⟨bytes, hlook, hadmits⟩
    rw [hlook]
    exact hadmits

/-- A straight path is an item if and only if the names on it lead to an eligible file. -/
theorem isItem_and_straight_iff {s : FileSource} {place : Place} (hplace : place.WellNamed)
    (h : s.start.directory s.root = .ok place) (path : String) :
    s.isItem path = true ∧ place.Straight (textBytes path) ↔
      EligibleFile s.limits place (pathNames (textBytes path)) := by
  obtain ⟨follow, hitem⟩ := isItem_eq_true_iff h
  rw [hitem, admitsPath_eq_true_iff]
  constructor
  · rintro ⟨⟨hnames, bytes, hlook, hadmits⟩, hstraight⟩
    have hleads : place.node.Leads (pathNames (textBytes path)) (.file bytes) := by
      refine leads_of_lookUpNames ?_ hstraight.unlinked hlook
      intro name hname
      refine ⟨(hnames name hname).1, ?_, (hnames name hname).2.1⟩
      rintro rfl
      exact hstraight.dot_notMem hname
    exact ⟨bytes, hleads, fun name hname => (hnames name hname).2.2,
      Limits.admits_eq_true_iff.1 hadmits⟩
  · rintro ⟨bytes, hleads, hnames, hbytes⟩
    have hfile := hleads.isFileName hplace.entries
    refine ⟨⟨fun name hname => ⟨(hfile name hname).ne_empty, (hfile name hname).ne_dots,
      hnames name hname⟩, bytes, lookUpNames_of_leads hplace hleads,
        Limits.admits_eq_true_iff.2 hbytes⟩, ?_, ?_⟩
    · exact fun hdot => (hfile [dot] hdot).ne_dot rfl
    · rintro above below target heq hbelow
      rw [heq] at hleads
      exact hleads.not_link hbelow

/-- An item that is straight is listed. Where the names of files are texts, nothing else is. -/
theorem listed_iff_eligible {s : FileSource} (hnamed : s.start.WellNamed) {items : List String}
    (h : s.items = .ok items) :
    ∃ place, s.start.directory s.root = .ok place ∧
      (∀ path, s.isItem path = true → place.Straight (textBytes path) → path ∈ items) ∧
      (TextNamed s.limits place → ∀ path,
        path ∈ items ↔ s.isItem path = true ∧ place.Straight (textBytes path)) := by
  cases hroot : s.start.directory s.root with
  | error e =>
    rw [FileSource.items, hroot] at h
    cases h
  | ok place =>
    have hplace : place.WellNamed := hnamed.directory hroot
    have hlists : Lists s.limits place items := by
      rcases items_cases hroot hplace.entries with ⟨names, _, hitems⟩ | ⟨found, hfound, hitems⟩
      · rw [hitems] at h
        cases h
      · obtain rfl := Except.ok.inj (hitems.symm.trans h)
        exact lists_of_found hplace.entries hfound
    have hlisted : ∀ path, s.isItem path = true → place.Straight (textBytes path) →
        path ∈ items := by
      intro path hitem hstraight
      have heligible := (isItem_and_straight_iff hplace hroot path).1 ⟨hitem, hstraight⟩
      exact hlists.mem_iff.2 ⟨_, heligible, itemPath_pathNames path⟩
    refine ⟨place, rfl, hlisted, fun htext path => ⟨fun hmem => ?_, fun hitem =>
      hlisted path hitem.1 hitem.2⟩⟩
    obtain ⟨names, heligible, rfl⟩ := hlists.mem_iff.1 hmem
    rw [isItem_and_straight_iff hplace hroot, pathNames,
      heligible.fields_itemPath hplace.entries (htext names heligible)]
    exact heligible

/-- An ignored directory, a link to it, and a file beside both. -/
def aliasedTree : List (Bytes × FileNode) :=
  [(textBytes "build", .directory [(textBytes "out.kt", .file "x".toUTF8)]),
    (textBytes "b", .link (textBytes "build")), (textBytes "main.kt", .file "y".toUTF8)]

def aliasedSource : FileSource := ⟨⟨aliasedTree, []⟩, textBytes ".", { ignore := ["build"] }⟩

theorem wellNamed_aliasedSource : aliasedSource.start.WellNamed :=
  ⟨by decide +kernel, fun _ h => absurd h List.not_mem_nil⟩

theorem items_aliasedSource : aliasedSource.items = .ok ["main.kt"] := by
  have hitems : aliasedSource.items.toOption = some ["main.kt"] := by decide +kernel
  cases h : aliasedSource.items with
  | error e => rw [h] at hitems; cases hitems
  | ok items => rw [h] at hitems; cases hitems; rfl

theorem textNamed_aliasedSource : TextNamed aliasedSource.limits aliasedSource.start := by
  intro names h
  have hmem := (item_mem_findings_iff wellNamed_aliasedSource.entries).2 h
  have hfindings : aliasedSource.start.node.findings aliasedSource.limits [] =
      [.item [textBytes "main.kt"]] := by decide +kernel
  rw [hfindings] at hmem
  cases List.mem_singleton.1 hmem
  decide +kernel

theorem listed_iff_eligible_aliased :
    aliasedSource.start.WellNamed ∧ aliasedSource.items = .ok ["main.kt"] ∧
      ∃ place, aliasedSource.start.directory (textBytes ".") = .ok place ∧
        TextNamed aliasedSource.limits place ∧
        aliasedSource.isItem "main.kt" = true ∧ place.Straight (textBytes "main.kt") ∧
        aliasedSource.isItem "b/out.kt" = true ∧ ¬ place.Straight (textBytes "b/out.kt") := by
  obtain ⟨place, hplace, hlisted, hiff⟩ :=
    listed_iff_eligible wellNamed_aliasedSource items_aliasedSource
  obtain rfl : aliasedSource.start = place :=
    Except.ok.inj (Eq.trans (by rfl) hplace)
  obtain ⟨hmain, hstraight⟩ := (hiff textNamed_aliasedSource "main.kt").1 List.mem_cons_self
  have hout : aliasedSource.isItem "b/out.kt" = true := by decide +kernel
  refine ⟨wellNamed_aliasedSource, items_aliasedSource, _, hplace, textNamed_aliasedSource, hmain,
    hstraight, hout, fun h => ?_⟩
  exact absurd (hlisted "b/out.kt" hout h) (by decide)

/-- The link is another way into the ignored directory. -/
theorem eligible_by_link :
    aliasedSource.start.WellNamed ∧ aliasedSource.items = .ok ["main.kt"] ∧
      aliasedSource.isItem "b/out.kt" = true ∧ "b/out.kt" ∉ ["main.kt"] :=
  ⟨wellNamed_aliasedSource, items_aliasedSource, by decide +kernel, by decide⟩

end PromptScript
