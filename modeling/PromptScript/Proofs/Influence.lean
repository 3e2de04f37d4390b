import Mathlib.Logic.Relation
import PromptScript.Proofs.Agreement
import PromptScript.Proofs.AuthoredCommands

/-!
# Proofs.Influence

A variable has influence only where it is referred to. Two runs of documents that differ in the
value of one variable are followed side by side (`renderVariables_alike`): a variable that does not
depend on the changed one finds the same texts in both, and comes to the same. So does the body
(`influence_follows_references`). The values may be of any kind; where the changed one fails, its
diagnostic is the text that those depending on it find.
-/

namespace PromptScript

/-! ## Dependencies -/

/-- A text of the value has a reference to the name. -/
def Value.RefersTo (v : Value) (name : String) : Prop :=
  ∃ text ∈ v.texts, ∃ o ∈ references text, o.reference.name = name

/-- A declaration of the one variable refers to the other. -/
def RefersIn (ds : List Declaration) (x y : String) : Prop :=
  ∃ d ∈ ds, canonicalName d.name = x ∧ d.value.RefersTo y

/-- A variable depends on those that it refers to and on those that these depend on. -/
def DependsOn (ds : List Declaration) : String → String → Prop := Relation.TransGen (RefersIn ds)

theorem DependsOn.exists_text {ds : List Declaration} {x y : String} (h : DependsOn ds x y) :
    ∃ d ∈ ds, canonicalName d.name = x ∧ d.value.texts ≠ [] := by
  obtain ⟨z, ⟨d, hd, hname, text, htext, _⟩, _⟩ := Relation.TransGen.head'_iff.1 h
  exact ⟨d, hd, hname, List.ne_nil_of_mem htext⟩

/-- The same names are declared in the same order, with the same values but for the name `k`. -/
inductive SameBut (k : String) : List Declaration → List Declaration → Prop where
  | nil : SameBut k [] []
  | cons {d d' : Declaration} {rest rest' : List Declaration} :
      d.name = d'.name → (canonicalName d.name ≠ k → d.value = d'.value) → SameBut k rest rest' →
      SameBut k (d :: rest) (d' :: rest')

/-- The name is not `k` and does not depend on it. -/
def Apart (ds : List Declaration) (k x : String) : Prop := x ≠ k ∧ ¬ DependsOn ds x k

/-- What a variable apart from `k` refers to is apart from `k` too. -/
theorem Apart.of_refersTo {ds : List Declaration} {k y : String} {d : Declaration} (hd : d ∈ ds)
    (h : Apart ds k (canonicalName d.name)) (hy : d.value.RefersTo y) : Apart ds k y := by
  have hrefers : RefersIn ds (canonicalName d.name) y := ⟨d, hd, rfl, hy⟩
  constructor
  · rintro rfl
    exact h.2 (.single hrefers)
  · intro hdepends
    exact h.2 (.head hrefers hdepends)

/-! ## Texts -/

theorem shown_eq_of_find? {s t : Scene} {r : Reference} (h : s.find? r.name = t.find? r.name) :
    s.shown r = t.shown r := by
  rw [Scene.shown, Scene.shown, Piece.resolved, Piece.resolved, h]

theorem filled_eq_of_references {s t : Scene} {text : List Char}
    (h : ∀ r, .reference r ∈ pieces text → s.find? r.name = t.find? r.name) :
    s.filled text = t.filled text :=
  resolved_congr fun r hr => shown_eq_of_find? (h r hr)

/-- The references between the commands of a body are references of the body. -/
theorem mem_pieces_of_stretch {parts : List BodyPart} (h : WellParted parts) {r : Reference} :
    (.reference r ∈ pieces (cutAtCommands parts).1 →
      ∃ text, .plain text ∈ parts ∧ .reference r ∈ pieces text) ∧
    ∀ x ∈ (cutAtCommands parts).2, .reference r ∈ pieces x.2 →
      ∃ text, .plain text ∈ parts ∧ .reference r ∈ pieces text := by
  induction h with
  | nil => exact ⟨fun hr => absurd hr List.not_mem_nil, fun x hx => absurd hx List.not_mem_nil⟩
  | last text =>
    refine ⟨fun hr => ?_, fun x hx => absurd hx List.not_mem_nil⟩
    rw [cutAtCommands, cutAtCommands, List.append_nil] at hr
    exact ⟨text, List.mem_cons_self, hr⟩
  | @command call rest _ _ ih =>
    refine ⟨fun hr => absurd hr List.not_mem_nil, fun x hx hr => ?_⟩
    have hlater : ∃ text, .plain text ∈ rest ∧ .reference r ∈ pieces text := by
      rcases List.mem_cons.1 hx with rfl | hx
      · exact ih.1 hr
      · exact ih.2 x hx hr
    obtain ⟨text, htext, hmem⟩ := hlater
    exact ⟨text, List.mem_cons_of_mem _ htext, hmem⟩
  | @plain text call rest _ ih =>
    constructor
    · intro hr
      rw [cutAtCommands, cutAtCommands, List.append_nil] at hr
      exact ⟨text, List.mem_cons_self, hr⟩
    · intro x hx hr
      obtain ⟨later, hlater, hmem⟩ := ih.2 x hx hr
      exact ⟨later, List.mem_cons_of_mem _ hlater, hmem⟩

/-- Two scenes that find the same for the references of a body expand it to the same text. -/
theorem expansion_eq_of_references {s t : Scene} {body : List Char} {runs : List CommandRun}
    (h : ∀ r, .reference r ∈ pieces body → s.find? r.name = t.find? r.name) :
    s.expansion (cutAtCommands (bodyParts body)).1
        (runs.zip ((cutAtCommands (bodyParts body)).2.map (·.2))) =
      t.expansion (cutAtCommands (bodyParts body)).1
        (runs.zip ((cutAtCommands (bodyParts body)).2.map (·.2))) := by
  have hbody : ∀ r, (∃ text, .plain text ∈ bodyParts body ∧ .reference r ∈ pieces text) →
      s.find? r.name = t.find? r.name := by
    rintro r ⟨text, htext, hmem⟩
    refine h r ?_
    rw [pieces_eq_flatMap_bodyParts body]
    exact List.mem_flatMap.2 ⟨_, htext, hmem⟩
  have hstretch := fun r => mem_pieces_of_stretch (r := r) (wellParted_bodyParts body)
  have hfirst : s.filled (cutAtCommands (bodyParts body)).1 =
      t.filled (cutAtCommands (bodyParts body)).1 :=
    filled_eq_of_references fun r hr => hbody r ((hstretch r).1 hr)
  have hrest : ∀ x ∈ runs.zip ((cutAtCommands (bodyParts body)).2.map (·.2)),
      x.1.result.toList ++ s.filled x.2 = x.1.result.toList ++ t.filled x.2 := by
    intro x hx
    obtain ⟨y, hy, hxy⟩ := List.mem_map.1 (List.of_mem_zip hx).2
    rw [filled_eq_of_references fun r hr => hbody r ((hstretch r).2 y hy (by rwa [hxy]))]
  rw [Scene.expansion, Scene.expansion, hfirst, List.flatMap_congr hrest]

/-! ## Variables -/

section Variables

variable {source : ItemSource} {s s' t t' : RunState}

/-- A value comes to the same in two states whose scenes find the same for its references. -/
theorem renderValue_eq_of_references (hfixed : source.Fixed) (hs : s.Informed source)
    (ht : t.Informed source) {v : Value}
    (hfind : ∀ name, v.RefersTo name → s.scene.find? name = t.scene.find? name)
    {r r' : Except RunError Rendered} (h : renderValue source s v = (r, s'))
    (h' : renderValue source t v = (r', t')) (hq : s'.progress.cancelled = false)
    (hq' : t'.progress.cancelled = false) : r = r' := by
  -- first the second state is moved to the scene of the first
  have hmoved : renderValue source { t with scene := s.scene } v =
      (r', { t' with scene := s.scene }) := by
    rw [renderValue_withScene, h']
    intro l hl
    obtain ⟨hscene, text, htext, hmem⟩ := asks_renderValue hl
    obtain ⟨o, ho, hreference⟩ := mem_references_iff.2 hmem
    rw [ReferenceLookup.AlikeIn, hscene]
    exact shown_eq_of_find? (hfind _ ⟨text, htext, o, ho, by rw [hreference]⟩)
  exact renderValue_eq_of_fixed (t := { t with scene := s.scene }) hfixed hs ht rfl h hmoved hq hq'

/-- The invariant: the same is found for each name apart from `k`. It carries over the declaration
of `k` and of what depends on it, since these only give their own names a text. -/
theorem renderVariables_alike (hfixed : source.Fixed) {k : String} {all ds ds' : List Declaration}
    (hall : ∀ d ∈ ds, d ∈ all) (hsame : SameBut k ds ds') (hs : s.Informed source)
    (ht : t.Informed source) (hcontext : s.scene.context = t.scene.context)
    (hrendered : ∀ x, Apart all k x → s.scene.rendered.get? x = t.scene.rendered.get? x)
    (h : renderVariables source s ds = (.ok (), s'))
    (h' : renderVariables source t ds' = (.ok (), t')) (hq : s'.progress.cancelled = false)
    (hq' : t'.progress.cancelled = false) :
    ∀ x, Apart all k x → s'.scene.rendered.get? x = t'.scene.rendered.get? x := by
  induction hsame generalizing s t with
  | nil => cases h; cases h'; exact hrendered
  | @cons d d' rest rest' hname hvalue _ ih =>
    obtain ⟨r, s₁, hrender, hrest⟩ := renderVariables_cons_eq_ok_iff.1 h
    obtain ⟨r', t₁, hrender', hrest'⟩ := renderVariables_cons_eq_ok_iff.1 h'
    have hq₁ : s₁.progress.cancelled = false := (grows_renderVariables hrest).uncancelled hq
    have hq₁' : t₁.progress.cancelled = false := (grows_renderVariables hrest').uncancelled hq'
    have hscene := (kept_renderValue hrender).1
    have hscene' := (kept_renderValue hrender').1
    have hfind : ∀ x, Apart all k x → s.scene.find? x = t.scene.find? x := by
      intro x hx
      rw [Scene.find?, Scene.find?, hrendered x hx, hcontext]
    have hresult : Apart all k (canonicalName d.name) → r = r' := by
      intro hapart
      rw [← hvalue hapart.1] at hrender'
      have hequal := renderValue_eq_of_references hfixed hs ht
        (fun name hrefers => hfind name (hapart.of_refersTo (hall d List.mem_cons_self) hrefers))
        hrender hrender' hq₁ hq₁'
      cases hequal
      rfl
    have hs₁ : s₁.Informed source := informed_renderValue hfixed hs hrender
    have ht₁ : t₁.Informed source := informed_renderValue hfixed ht hrender'
    refine ih (s := s₁.keep d.name r) (t := t₁.keep d'.name r')
      (fun d hd => hall d (List.mem_cons_of_mem _ hd)) hs₁ ht₁ ?_ ?_ hrest hrest'
    · simp only [RunState.keep, hscene, hscene', hcontext]
    · intro x hx
      simp only [RunState.keep, hscene, hscene', NameMap.get?_insert, ← hname]
      by_cases hxd : x = canonicalName d.name
      · rw [if_pos hxd, if_pos hxd, hresult (hxd ▸ hx)]
      · rw [if_neg hxd, if_neg hxd, hrendered x hx]

end Variables

/-! ## Whole runs -/

section Runs

variable {host : Host} {script : String} {context : Context} {cache cache₁ cache₁' : ResponseCache}
  {d d' : Document} {p q q' : Progress Event} {out out' : RunOutput}

theorem rendered_alike (hfixed : host.source.Fixed) {k : String}
    (hsame : SameBut k d.header.declarations d'.header.declarations)
    (h : d.run host script context cache p = (.ok out, cache₁, q))
    (h' : d'.run host script context cache p = (.ok out', cache₁', q')) (hq : q.cancelled = false)
    (hq' : q'.cancelled = false) {x : String} (hx : Apart d.header.declarations k x) :
    out.rendered.get? x = out'.rendered.get? x := by
  obtain ⟨s, p₁, text, hvars, hexpand, hhand, hout⟩ := run_eq_ok h
  obtain ⟨t, p₁', text', hvars', hexpand', hhand', hout'⟩ := run_eq_ok h'
  -- a token that is cancelled stays so, thus it was not before the body and the hand-off
  have hp₁ := (grows_handOffTo? hhand).uncancelled hq
  have hp₁' := (grows_handOffTo? hhand').uncancelled hq'
  have hs := (grows_expandBody hexpand).uncancelled hp₁
  have ht := (grows_expandBody hexpand').uncancelled hp₁'
  rw [hout, hout']
  exact renderVariables_alike hfixed (fun d hd => hd) hsame (fun _ hnone => by cases hnone)
    (fun _ hnone => by cases hnone) rfl (fun _ _ => rfl) hvars hvars' hs ht x hx

/-- Two bodies that are the same come to the same text if the same is rendered for what they refer
to. -/
theorem text_eq_of_references (hfixed : host.source.Fixed) (hbody : d'.body = d.body)
    (h : d.run host script context cache p = (.ok out, cache₁, q))
    (h' : d'.run host script context cache p = (.ok out', cache₁', q'))
    (halike : ∀ o ∈ references (String.ofList d.body),
      out.rendered.get? o.reference.name = out'.rendered.get? o.reference.name) :
    out.text = out'.text := by
  obtain ⟨runs, texts, p₂, p₃, _, hparts, htext⟩ := expansion_of_run h
  obtain ⟨runs', texts', p₂', p₃', _, hparts', htext'⟩ := expansion_of_run h'
  rw [hbody] at hparts' htext'
  cases runs_eq_of_fixed hfixed hparts hparts'
  have hfind : ∀ r, .reference r ∈ pieces d.body →
      Scene.find? ⟨context, out.rendered⟩ r.name =
        Scene.find? ⟨context, out'.rendered⟩ r.name := by
    intro r hr
    obtain ⟨o, ho, rfl⟩ := mem_references_iff.2
      (by rwa [String.toList_ofList] : .reference r ∈ pieces (String.ofList d.body).toList)
    rw [Scene.find?, Scene.find?, halike o ho]
  rw [← String.toList_inj, htext, htext', expansion_eq_of_references hfind]

theorem exists_text_of_declared (h : d.run host script context cache p = (.ok out, cache₁, q))
    {x : String} (hx : x ∈ declaredNames d.header.declarations) :
    ∃ text, out.rendered.get? x = some text := by
  obtain ⟨s, p₁, text, hvars, _, _, hout⟩ := run_eq_ok h
  obtain ⟨hholds, _⟩ := holds_renderVariables (Scene.holds_nil context) hvars
  rw [hout]
  exact NameMap.contains_eq_true_iff.1 ((hholds x).2 hx)

end Runs

/-- Two runs of documents that differ in the value of `k` give the same text to each variable that
is apart from `k`, and come to the same text if the body refers to no other. -/
theorem influence_follows_references {d d' : Document} {k : String}
    (hsame : SameBut k d.header.declarations d'.header.declarations) (hbody : d'.body = d.body)
    {host : Host} (hfixed : host.source.Fixed) (script : String) (context : Context)
    (cache : ResponseCache) (p : Progress Event)
    (h : (d.run host script context cache p).2.2.cancelled = false)
    (h' : (d'.run host script context cache p).2.2.cancelled = false) :
    ∃ out out', (d.run host script context cache p).1 = .ok out ∧
      (d'.run host script context cache p).1 = .ok out' ∧
      (∀ x ∈ declaredNames d.header.declarations, x ≠ k →
        ¬ DependsOn d.header.declarations x k →
          ∃ text, out.rendered.get? x = some text ∧ out'.rendered.get? x = some text) ∧
      ((∀ o ∈ references (String.ofList d.body), o.reference.name ≠ k ∧
          ¬ DependsOn d.header.declarations o.reference.name k) → out.text = out'.text) := by
  obtain ⟨out, cache₁, q, hrun, hq⟩ := run_completes h
  obtain ⟨out', cache₁', q', hrun', hq'⟩ := run_completes h'
  refine ⟨out, out', by rw [hrun], by rw [hrun'], ?_, ?_⟩
  · intro x hx hxk hdepends
    obtain ⟨text, hfound⟩ := exists_text_of_declared hrun hx
    have hsame := rendered_alike hfixed hsame hrun hrun' hq hq' ⟨hxk, hdepends⟩
    exact ⟨text, hfound, by rw [← hsame, hfound]⟩
  · intro hrefers
    refine text_eq_of_references hfixed hbody hrun hrun' ?_
    intro o ho
    exact rendered_alike hfixed hsame hrun hrun' hq hq' (hrefers o ho)

/-- A listing in the order of a key, a text that refers to it, and a listing of its own. -/
def sortedBy (key : String) : Header where
  declarations := [⟨"k", .action ⟨".*", [.sort [key]], List.cons_ne_nil _ _⟩, 3⟩,
    ⟨"uses", .text "see $k", 4⟩,
    ⟨"other", .action ⟨"kt$", [.sort ["name"]], List.cons_ne_nil _ _⟩, 5⟩]

/-- A body that shows the last of these. -/
def showsOther : Sections := ⟨none, "all: $other\n".toList, 7⟩

/-- Whether a run of this document on two files is cancelled, and what its second variable comes
to. -/
def useOfSorted (key : String) : Option (Bool × Option String) :=
  (Document.ofHeader (sortedBy key) showsOther).toOption.map fun d =>
    let r := d.run twoFiles "s" {} .empty {}
    (r.2.2.cancelled, r.1.toOption.bind (·.rendered.get? "uses"))

theorem influence_follows_references_failing :
    ∃ d d' out out', Document.ofHeader (sortedBy "mtime") showsOther = .ok d ∧
      Document.ofHeader (sortedBy "name") showsOther = .ok d' ∧
      (d.run twoFiles "s" {} .empty {}).1 = .ok out ∧
      (d'.run twoFiles "s" {} .empty {}).1 = .ok out' ∧
      out.rendered.get? "uses" =
        some ("see " ++ diagnostic (PipelineError.invalidArgument "mtime").message) ∧
      out'.rendered.get? "uses" = some "see a.kt, b.py" ∧
      out.rendered.get? "other" = out'.rendered.get? "other" ∧ out.text = out'.text := by
  have huse : useOfSorted "mtime" = some (false,
      some ("see " ++ diagnostic (PipelineError.invalidArgument "mtime").message)) := by
    decide +kernel
  have huse' : useOfSorted "name" = some (false, some "see a.kt, b.py") := by decide +kernel
  unfold useOfSorted at huse huse'
  cases hd : Document.ofHeader (sortedBy "mtime") showsOther with
  | error e => rw [hd] at huse; cases huse
  | ok d =>
  cases hd' : Document.ofHeader (sortedBy "name") showsOther with
  | error e => rw [hd'] at huse'; cases huse'
  | ok d' =>
    rw [hd] at huse
    rw [hd'] at huse'
    simp only [Except.toOption, Option.map_some, Option.some.injEq, Prod.mk.injEq] at huse huse'
    obtain ⟨t, _, heq⟩ := Document.ofHeader_eq_ok hd
    obtain ⟨t', _, heq'⟩ := Document.ofHeader_eq_ok hd'
    have hheader : d.header = sortedBy "mtime" := by rw [heq]
    have hheader' : d'.header = sortedBy "name" := by rw [heq']
    have hbody : d'.body = d.body := by rw [heq, heq']
    have hsame : SameBut "k" d.header.declarations d'.header.declarations := by
      rw [hheader, hheader']
      exact .cons rfl (fun h => absurd (by decide) h)
        (.cons rfl (fun _ => rfl) (.cons rfl (fun _ => rfl) .nil))
    have hother : ¬ DependsOn d.header.declarations "other" "k" := by
      intro hdepends
      obtain ⟨decl, hmem, hname, htexts⟩ := hdepends.exists_text
      rw [hheader] at hmem
      simp only [sortedBy, List.mem_cons, List.not_mem_nil, or_false] at hmem
      rcases hmem with rfl | rfl | rfl
      · exact htexts rfl
      · exact absurd hname (by decide)
      · exact htexts rfl
    obtain ⟨out, out', hrun, hrun', hvariables, htext⟩ :=
      influence_follows_references hsame hbody (fixed_ofList _) "s" {} .empty {} huse.1 huse'.1
    rw [hrun] at huse
    rw [hrun'] at huse'
    refine ⟨d, d', out, out', rfl, rfl, hrun, hrun', huse.2, huse'.2, ?_, htext ?_⟩
    · obtain ⟨text, hfound, hfound'⟩ :=
        hvariables "other" (by rw [hheader]; decide) (by decide) hother
      rw [hfound, hfound']
    · -- the body refers to this variable alone
      have hnames : ∀ o ∈ references (String.ofList showsOther.body),
          o.reference.name = "other" := by decide
      intro o ho
      have hname : o.reference.name = "other" := hnames o (by rwa [heq] at ho)
      rw [hname]
      exact ⟨by decide, hother⟩

end PromptScript
