import PromptScript.Proofs.Encoding
import PromptScript.Proofs.ShownRuns
import PromptScript.Proofs.Sorting
import PromptScript.Proofs.SymbolTable

/-!
# Proofs.ActionListing

The listing of the scripts in a directory. Scripts are loaded one after the other into a registry,
which then holds for each path the script of that path and nothing else (`get?_of_loadScripts`), so
that the listing has the scripts that a check accepts. A script that does not compile is passed over.
A file that is no text ends the loading, and then nothing is listed (`listed_iff_checked`).
-/

namespace PromptScript

theorem NameMap.mem_values_iff {α : Type u} {m : NameMap α} {v : α} :
    v ∈ m.values ↔ ∃ name, m.get? name = some v := by
  rw [NameMap.values, List.mem_map]
  constructor
  · rintro ⟨⟨name, _⟩, he, rfl⟩
    exact ⟨name, (find?_eq_some_iff m.ascending _ _).2 he⟩
  · rintro ⟨name, h⟩
    exact ⟨(name, v), (find?_eq_some_iff m.ascending _ _).1 h, rfl⟩

/-! ## Scripts in a directory -/

/-- The path is that of an entry of the directory with the extension of scripts, and leads to a
file. -/
def IsScript (here : Place) (directory : Bytes) (place : Place) (path : Bytes) : Prop :=
  (∃ e ∈ place.entries, path = joinPath directory e.1) ∧ here.isFile path = true ∧
    Path.extension? path = some scriptExtension

theorem mem_scriptPaths_iff {here place : Place} {directory path : Bytes} :
    path ∈ scriptPaths here directory place ↔ IsScript here directory place path := by
  rw [scriptPaths, List.mem_filterMap]
  constructor
  · rintro ⟨name, hname, h⟩
    obtain ⟨e, he, rfl⟩ := List.mem_map.1 ((sortBy_perm ..).mem_iff.1 hname)
    dsimp only at h
    split at h
    · rename_i hscript
      obtain ⟨hfile, hextension⟩ := Bool.and_eq_true_iff.1 hscript
      cases h
      exact ⟨⟨e, he, rfl⟩, hfile, eq_of_beq hextension⟩
    · cases h
  · rintro ⟨⟨e, he, rfl⟩, hfile, hextension⟩
    refine ⟨e.1, (sortBy_perm ..).mem_iff.2 (List.mem_map_of_mem he), if_pos ?_⟩
    rw [hfile, hextension, beq_self_eq_true, Bool.and_self]

namespace Workspace

variable {w : Workspace} {path : Bytes}

/-- The file at the path is a text that compiles to the document. -/
def Compiles (w : Workspace) (path : Bytes) (d : Document) : Prop :=
  ∃ text, w.here.readText path = .ok text ∧ Document.compile text = .ok d

theorem Compiles.unique {d d' : Document} (h : w.Compiles path d) (h' : w.Compiles path d') :
    d = d' := by
  obtain ⟨text, hread, hcompile⟩ := h
  obtain ⟨text', hread', hcompile'⟩ := h'
  obtain rfl := Except.ok.inj (hread.symm.trans hread')
  exact Except.ok.inj (hcompile.symm.trans hcompile')

/-- A check accepts what compiles. -/
theorem check_iff {file : String} :
    ((Command.check file).outcome w).code = 0 ↔ ∃ d, w.Compiles (textBytes file) d := by
  rw [Command.outcome, checkCommand]
  constructor
  · intro h
    rw [withDocument] at h
    split at h
    · cases h
    · rename_i text hread
      split at h
      · cases h
      · rename_i d hcompile
        exact ⟨d, text, hread, hcompile⟩
  · rintro ⟨d, text, hread, hcompile⟩
    rw [withDocument_eq hread hcompile]
    cases w.settings.output <;> rfl

end Workspace

/-! ## Loading -/

section Loading

variable {w : Workspace} {loaded loaded' : Loaded} {paths seen : List Bytes}

theorem loadScripts_isOk_iff :
    (∃ loaded', loadScripts w loaded paths = .ok loaded') ↔
      ∀ path ∈ paths, ∃ text, w.here.readText path = .ok text := by
  induction paths generalizing loaded with
  | nil => exact ⟨fun _ => nofun, fun _ => ⟨loaded, rfl⟩⟩
  | cons path rest ih =>
    rw [loadScripts, List.forall_mem_cons]
    cases hread : w.here.readText path with
    | error e =>
      constructor
      · rintro ⟨_, h⟩
        cases h
      · rintro ⟨⟨_, h⟩, _⟩
        cases h
    | ok text =>
      have hrest : ∀ loaded : Loaded, (∃ loaded', loadScripts w loaded rest = .ok loaded') ↔
          (∃ text', Except.ok text = (.ok text' : Lookup String)) ∧
            ∀ path ∈ rest, ∃ text, w.here.readText path = .ok text :=
        fun _ => ih.trans (and_iff_right ⟨text, rfl⟩).symm
      dsimp only
      cases Document.compile text <;> exact hrest _

/-- The registry holds the scripts of these paths that compile, each for its path. -/
def Loaded.Holds (w : Workspace) (seen : List Bytes) (loaded : Loaded) : Prop :=
  ∀ path s, loaded.scripts.get? path = some s ↔
    textBytes path ∈ seen ∧ s.path = path ∧ w.Compiles (textBytes path) s.document

theorem Loaded.holds_empty : Loaded.Holds w [] {} := fun _ _ => ⟨nofun, nofun⟩

/-- A script that compiles is added for its path. -/
theorem Loaded.Holds.insert {path : String} {d : Document} (h : loaded.Holds w seen)
    (hd : w.Compiles (textBytes path) d) :
    Loaded.Holds w (seen ++ [textBytes path])
      { loaded with scripts := loaded.scripts.insert path ⟨path, d⟩ } := by
  intro other s
  rw [NameMap.get?_insert, List.mem_append, List.mem_singleton, textBytes_inj]
  by_cases hother : other = path
  · subst hother
    rw [if_pos rfl]
    constructor
    · rintro ⟨⟩
      exact ⟨.inr rfl, rfl, hd⟩
    · rintro ⟨_, hpath, hs⟩
      obtain rfl := hs.unique hd
      rw [← hpath]
  · rw [if_neg hother, or_iff_left hother]
    exact h other s

/-- A script that does not compile changes nothing for the others. -/
theorem Loaded.Holds.skip {path : Bytes} (h : loaded.Holds w seen)
    (hpath : ∀ d, ¬ w.Compiles path d) (skipped : Nat) (warnings : String) :
    Loaded.Holds w (seen ++ [path]) ⟨loaded.scripts, skipped, warnings⟩ := by
  intro other s
  rw [List.mem_append, List.mem_singleton]
  refine (h other s).trans (and_congr_left fun hs => ?_)
  refine (or_iff_left ?_).symm
  rintro rfl
  exact hpath _ hs.2

/-- Scripts whose paths are texts do not get in each other's way. -/
theorem Loaded.Holds.loadScripts (h : loaded.Holds w seen) (htext : ∀ path ∈ paths, IsText path)
    (hload : loadScripts w loaded paths = .ok loaded') : loaded'.Holds w (seen ++ paths) := by
  induction paths generalizing loaded seen with
  | nil =>
    cases hload
    rw [List.append_nil]
    exact h
  | cons path rest ih =>
    obtain ⟨⟨path, rfl⟩, hrest⟩ := List.forall_mem_cons.1 htext
    rw [PromptScript.loadScripts, Utf8.shown_textBytes] at hload
    rw [List.append_cons]
    split at hload
    · cases hload
    · rename_i text hread
      split at hload
      · rename_i d hcompile
        exact ih (h.insert ⟨text, hread, hcompile⟩) hrest hload
      · rename_i e hcompile
        refine ih (h.skip ?_ _ _) hrest hload
        rintro d ⟨text', hread', hcompile'⟩
        obtain rfl := Except.ok.inj (hread.symm.trans hread')
        cases hcompile.symm.trans hcompile'

/-- The values of the registry are the scripts that it holds, in the order of their paths. -/
theorem Loaded.Holds.mem_values_iff (h : loaded.Holds w seen) {s : LoadedScript} :
    s ∈ loaded.scripts.values ↔
      textBytes s.path ∈ seen ∧ w.Compiles (textBytes s.path) s.document := by
  rw [NameMap.mem_values_iff]
  constructor
  · rintro ⟨path, hs⟩
    obtain ⟨hpath, rfl, hcompiles⟩ := (h path s).1 hs
    exact ⟨hpath, hcompiles⟩
  · rintro ⟨hpath, hcompiles⟩
    exact ⟨s.path, (h _ s).2 ⟨hpath, rfl, hcompiles⟩⟩

theorem Loaded.Holds.ascending (h : loaded.Holds w seen) :
    loaded.scripts.values.Pairwise fun a b => a.path < b.path := by
  have hpath : ∀ e ∈ loaded.scripts.entries, e.2.path = e.1 := by
    rintro ⟨path, s⟩ he
    exact ((h path s).1 ((NameMap.find?_eq_some_iff loaded.scripts.ascending _ _).2 he)).2.1
  refine List.pairwise_map.2 (loaded.scripts.ascending.imp_of_mem ?_)
  intro a b ha hb hlt
  rw [hpath a ha, hpath b hb]
  exact hlt

end Loading

/-! ## The listing -/

/-- The script is enabled, and offered at the location if one is asked for. -/
def LoadedScript.Passes (location : Option Location) (s : LoadedScript) : Prop :=
  s.enabled = true ∧ ∀ l, location = some l → s.location = l

theorem listedScripts_sublist (r : Registry) (location : Option Location) :
    (listedScripts r location).Sublist r.values := by
  cases location <;> exact List.filter_sublist

theorem mem_listedScripts_iff {r : Registry} {location : Option Location} {s : LoadedScript} :
    s ∈ listedScripts r location ↔ s ∈ r.values ∧ s.Passes location := by
  cases location with
  | none =>
    rw [listedScripts, List.mem_filter]
    exact and_congr_right fun _ => (and_iff_left nofun).symm
  | some l =>
    rw [listedScripts, Registry.offeredAt, List.mem_filter, Bool.and_eq_true_iff, beq_iff_eq]
    refine and_congr_right fun _ => and_congr_right fun _ => ?_
    exact ⟨fun h _ hl => h.trans (Option.some.inj hl), fun h => h l rfl⟩

/-- What is shown of scripts. -/
def listing : OutputFormat → List LoadedScript → String
  | .json, listed => jsonOutput (.list (listed.map LoadedScript.toJson))
  | .text, listed => String.join (listed.map fun s => asLine (scriptLine s))

theorem actionsCommand_of_loaded {w : Workspace} {directory : String} {place : Place}
    {loaded : Loaded} (location : Option Location)
    (hplace : w.here.directory (textBytes directory) = .ok place)
    (hload : loadScripts w {} (scriptPaths w.here (textBytes directory) place) = .ok loaded) :
    (actionsCommand w directory location).code = 0 ∧
      (actionsCommand w directory location).output =
        listing w.settings.output (listedScripts loaded.scripts location) := by
  rw [actionsCommand, hplace]
  dsimp only
  rw [hload]
  dsimp only
  cases w.settings.output <;> exact ⟨rfl, rfl⟩

theorem actionsCommand_of_unreadable {w : Workspace} {directory : String} {place : Place}
    (location : Option Location) (hplace : w.here.directory (textBytes directory) = .ok place)
    (hload : ¬ ∃ loaded,
      loadScripts w {} (scriptPaths w.here (textBytes directory) place) = .ok loaded) :
    (actionsCommand w directory location).code = 1 ∧
      (actionsCommand w directory location).output = "" := by
  rw [actionsCommand, hplace]
  dsimp only
  cases h : loadScripts w {} (scriptPaths w.here (textBytes directory) place) with
  | error errors => exact ⟨rfl, rfl⟩
  | ok loaded => exact absurd ⟨loaded, h⟩ hload

/-- The scripts of a directory are listed if and only if all of them can be read as texts. Listed
are then, in the order of their paths, the scripts that a check accepts and that pass the filter;
whether a script is one of them depends on its own file alone, unless paths that are no texts are
shown alike. If one of the files cannot be read as a text, the command fails and lists none of the
others either. -/
theorem listed_iff_checked (here : Place) (arguments : List String) (settings : Settings)
    (config : Config) (directory : String) (location : Option Location) (place : Place)
    (harguments : readArguments arguments = .ok (settings, .actions directory location))
    (hconfig : Config.load here settings.config settings.root = .ok config)
    (hplace : here.directory (textBytes directory) = .ok place) :
    let w : Workspace := ⟨here, settings, config⟩
    let script := IsScript here (textBytes directory) place
    let shown := runCommandLine here arguments
    (∀ file, ((Command.check file).outcome w).code = 0 ↔ ∃ d, w.Compiles (textBytes file) d) ∧
      (shown.code = 0 ↔ ∀ path, script path → ∃ text, here.readText path = .ok text) ∧
      (shown.code = 0 → (∀ path, script path → IsText path) →
        ∃ listed, shown.output = listing settings.output listed ∧
          (listed.Pairwise fun a b => a.path < b.path) ∧
          ∀ s, s ∈ listed ↔ script (textBytes s.path) ∧ w.Compiles (textBytes s.path) s.document ∧
            s.Passes location) ∧
      (shown.code ≠ 0 → shown.code = 1 ∧ shown.output = "") := by
  intro w script shown
  have hshown : shown = actionsCommand w directory location := runCommandLine_eq harguments hconfig
  have hreads : (∃ loaded, loadScripts w {} (scriptPaths here (textBytes directory) place) =
      .ok loaded) ↔ ∀ path, script path → ∃ text, here.readText path = .ok text := by
    rw [loadScripts_isOk_iff]
    exact forall_congr' fun path => imp_congr_left mem_scriptPaths_iff
  refine ⟨fun _ => Workspace.check_iff, ?_⟩
  rw [hshown, ← hreads]
  by_cases hload : ∃ loaded,
      loadScripts w {} (scriptPaths here (textBytes directory) place) = .ok loaded
  · obtain ⟨loaded, hloaded⟩ := hload
    obtain ⟨hcode, houtput⟩ := actionsCommand_of_loaded location hplace hloaded
    refine ⟨iff_of_true hcode ⟨loaded, hloaded⟩, fun _ htext => ?_, fun h => absurd hcode h⟩
    have hholds := Loaded.holds_empty.loadScripts
      (fun path hpath => htext path (mem_scriptPaths_iff.1 hpath)) hloaded
    rw [List.nil_append] at hholds
    refine ⟨_, houtput, hholds.ascending.sublist (listedScripts_sublist _ _), fun s => ?_⟩
    rw [mem_listedScripts_iff, hholds.mem_values_iff, mem_scriptPaths_iff, and_assoc]
  · obtain ⟨hcode, houtput⟩ := actionsCommand_of_unreadable location hplace hload
    have hne : (actionsCommand w directory location).code ≠ 0 := by
      rw [hcode]
      exact Nat.one_ne_zero
    exact ⟨iff_of_false hne hload, fun h => absurd h hne, fun _ => ⟨hcode, houtput⟩⟩

/-- A script that is listed, one that is not enabled, one that does not compile and one that is
offered elsewhere. -/
def mixedScripts : Place :=
  ⟨[(textBytes "d.shire", .file "---\nactionLocation: ContextMenu\n---\nhi\n".toUTF8),
    (textBytes "c.shire", .file "$nothing\n".toUTF8),
    (textBytes "a.shire", .file "hi\n".toUTF8),
    (textBytes "b.shire", .file "---\nenabled: false\n---\nhi\n".toUTF8)], []⟩

theorem listed_iff_checked_mixed :
    let arguments := ["actions", ".", "--location", "RunPanel"]
    let shown := runCommandLine mixedScripts arguments
    let script := IsScript mixedScripts (textBytes ".") mixedScripts
    shown.code = 0 ∧ (∀ path, script path → IsText path) ∧
      shown.output = "a                        RunPanel       ./a.shire\n" ∧
      ∃ listed, shown.output = listing .text listed ∧
        ∀ s, s ∈ listed ↔ script (textBytes s.path) ∧
          Workspace.Compiles ⟨mixedScripts, {}, {}⟩ (textBytes s.path) s.document ∧
          s.Passes (some .runPanel) := by
  intro arguments shown script
  have hcode : shown.code = 0 := by decide +kernel
  have htext : ∀ path, script path → IsText path := by
    have hentries : ∀ e ∈ mixedScripts.entries, IsText (joinPath (textBytes ".") e.1) := by
      decide +kernel
    rintro path ⟨⟨e, he, rfl⟩, _⟩
    exact hentries e he
  obtain ⟨_, _, hlisted, _⟩ := listed_iff_checked mixedScripts arguments {} {} "." (some .runPanel)
    mixedScripts (eq_ok_of_toOption (by decide +kernel)) (eq_ok_of_toOption (by decide +kernel)) rfl
  obtain ⟨listed, houtput, _, hmem⟩ := hlisted hcode htext
  exact ⟨hcode, htext, by decide +kernel, listed, houtput, hmem⟩

/-- A script that a check accepts, and next to it a file that is no text. -/
def besideBytes : Place :=
  ⟨[(textBytes "a.shire", .file "hi\n".toUTF8), (textBytes "b.shire", .file ⟨#[255]⟩)], []⟩

/-- The file that is no text keeps the script next to it from being listed. -/
theorem unreadable_script_ends_listing :
    (runCommandLine besideBytes ["--quiet", "check", "./a.shire"]).code = 0 ∧
      (runCommandLine besideBytes ["--quiet", "check", "./b.shire"]).code = 1 ∧
      (runCommandLine besideBytes ["--quiet", "actions", "."]).code = 1 ∧
      (runCommandLine besideBytes ["--quiet", "actions", "."]).output = "" ∧
      (runCommandLine ⟨besideBytes.entries.take 1, []⟩ ["--quiet", "actions", "."]).output =
        "a                        RunPanel       ./a.shire\n" :=
  ⟨by decide +kernel, by decide +kernel, by decide +kernel, by decide +kernel, by decide +kernel⟩

end PromptScript
