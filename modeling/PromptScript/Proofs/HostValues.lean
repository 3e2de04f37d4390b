import PromptScript.Proofs.Influence
import PromptScript.Proofs.StrayWords

/-!
# Proofs.HostValues

What the host gives to a variable that the document declares. A look-up takes the rendered variables
first and then the values of the host, so a value of the host would be seen by a text that comes
before the declaration. The compiler lets no such text pass: a declared name is looked up below its
declaration only (`found_of_inScope`). So a run depends on the values of the other names alone
(`run_eq_of_undeclared`), and no value of the host takes the place of a declared variable.
-/

namespace PromptScript

theorem Context.get?_set_ne (c : Context) {name : String} (value : String) {r : Reference}
    (h : IsName r.identifier) (hne : r.name ≠ canonicalName name) :
    (c.set name value).get? r.name = c.get? r.name := by
  simp only [Context.get?, Context.set, Reference.canonicalName_name h]
  exact NameMap.get?_insert_ne c.values value hne

section Runs

variable {text : String} {d : Document} {host : Host} {script : String} {context c : Context}
  {cache : ResponseCache} {p : Progress Event}

/-- Under a host that gives the same values to the names that are not declared each look-up of a run
finds the same. -/
theorem find?_eq_of_undeclared (hd : Document.compile text = .ok d)
    (hc : ∀ r : Reference, IsName r.identifier → r.name ∉ declaredNames d.header.declarations →
      c.get? r.name = context.get? r.name) {l : ReferenceLookup}
    (hl : l ∈ (Through.run Traced.look host script d context cache p).lookups) :
    (l.scene.under c).find? l.reference.name = l.scene.find? l.reference.name := by
  have hscoped := Document.wellScoped_of_compile hd
  obtain ⟨names, text, hholds, hcontext, hscope, hmem, _⟩ := lookup_site hscoped hl
  by_cases hdeclared : l.reference.name ∈ declaredNames d.header.declarations
  · -- the declaration is above, so its variable comes first in both scenes
    obtain ⟨_, v, hv⟩ := found_of_inScope hscoped hholds hscope hmem hdeclared
    rw [Scene.find?, Scene.find?, Scene.rendered_under, hv]
    rfl
  · rw [Scene.find?, Scene.find?, Scene.rendered_under, Scene.under, hcontext,
      hc l.reference (isName_of_mem_pieces hmem) hdeclared]

/-- A run depends on the values of the names that the document does not declare. -/
theorem run_eq_of_undeclared (hd : Document.compile text = .ok d)
    (hc : ∀ r : Reference, IsName r.identifier → r.name ∉ declaredNames d.header.declarations →
      c.get? r.name = context.get? r.name) :
    d.run host script c cache p = d.run host script context cache p :=
  run_under fun _ hl => shown_eq_of_find? (find?_eq_of_undeclared hd hc hl)

/-- A value of the host for a declared variable changes nothing: not what a run comes to, nor what
it keeps in the cache, nor what it does to the world outside. -/
theorem declared_not_overridden (hd : Document.compile text = .ok d) (host : Host)
    (script : String) (context : Context) (cache : ResponseCache) (p : Progress Event)
    {name : String} (hname : canonicalName name ∈ declaredNames d.header.declarations)
    (value : String) :
    d.run host script (context.set name value) cache p =
      d.run host script context cache p := by
  refine run_eq_of_undeclared hd fun r hr hundeclared => ?_
  refine context.get?_set_ne value hr ?_
  rintro heq
  exact hundeclared (heq ▸ hname)

end Runs

/-- A document that refers to its first variable in a subject, in a message and in its body. -/
def subjectText : String :=
  "---\nvariables:\n  x: one\n" ++
    "  y: case \"$x\" \x7b \"one\" /.*/ \x7b prompt(\"is \x7bx\x7d\") \x7d \x7d\n---\n" ++
    "\x7bx\x7d $y $context.x\n"

theorem declared_not_overridden_subject :
    let host : Host := { source := .ofList [] }
    let context : Context := Context.set {} "\x7bcontext.x\x7d" "two"
    ∃ d, Document.compile subjectText = .ok d ∧
      canonicalName "\x7bcontext.x\x7d" ∈ declaredNames d.header.declarations ∧
      context.get? "x" = some "two" ∧
      d.run host "s" context .empty {} = d.run host "s" {} .empty {} ∧
      textUnder context d = some "one is one one\n" := by
  intro host context
  have hmap : (Document.compile subjectText).toOption.map (fun d =>
      (declaredNames d.header.declarations, textUnder context d)) =
      some (["x", "y"], some "one is one one\n") := by decide +kernel
  obtain ⟨d, hd, hread⟩ := Document.compiled_of_map hmap
  obtain ⟨hnames, htext⟩ := Prod.mk.inj hread
  have hdeclared : canonicalName "\x7bcontext.x\x7d" ∈ declaredNames d.header.declarations := by
    rw [hnames]
    decide
  exact ⟨d, hd, hdeclared, by decide,
    declared_not_overridden hd host "s" {} .empty {} hdeclared "two", htext⟩

end PromptScript
