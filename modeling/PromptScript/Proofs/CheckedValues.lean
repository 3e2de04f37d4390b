import PromptScript.Proofs.Grammar
import PromptScript.Proofs.HeaderLines
import PromptScript.Proofs.Scope

/-!
# Proofs.CheckedValues

What reading a header makes sure of. Wherever a value of a header holds an action, in a list, in a
record or in an arm of a case match, its trigger and its patterns can be read and its verbs have as
many arguments as they take (`Document.checked_of_compile`). The pattern language checks this at the
leaves, and reading the values around them takes nothing away.
-/

namespace PromptScript

/-! ## Checked actions -/

/-- The text writes a pattern. -/
def IsPattern (text : String) : Prop := ∃ p, Pattern.read text = .ok p

instance (text : String) : Decidable (IsPattern text) :=
  match h : Pattern.read text with
  | .ok p => .isTrue ⟨p, h⟩
  | .error _ => .isFalse fun ⟨p, hp⟩ => by rw [h] at hp; cases hp

/-- A `grep` has patterns, all of which can be read, and an `xargs` binds one to five variables. -/
def Verb.Checked : Verb → Prop
  | .grep patterns => patterns ≠ [] ∧ ∀ p ∈ patterns, IsPattern p
  | .xargs names => 1 ≤ names.length ∧ names.length ≤ 5
  | _ => True

structure Action.Checked (a : Action) : Prop where
  verbs_ne_nil : a.verbs ≠ []
  trigger : IsPattern a.trigger
  verbs : ∀ v ∈ a.verbs, v.Checked

namespace Value

mutual

/-- The actions anywhere in a value. -/
def actions : Value → List Action
  | .action a => [a]
  | .caseMatch m => m.arms.values
  | .list items => itemActions items
  | .record fields => fieldActions fields
  | _ => []

def itemActions : List Value → List Action
  | [] => []
  | v :: rest => v.actions ++ itemActions rest

def fieldActions : List (String × Value) → List Action
  | [] => []
  | (_, v) :: rest => v.actions ++ fieldActions rest

end

theorem mem_fieldActions_iff {a : Action} {fields : List (String × Value)} :
    a ∈ fieldActions fields ↔ ∃ e ∈ fields, a ∈ e.2.actions := by
  induction fields with
  | nil => simp [fieldActions]
  | cons e rest ih =>
    obtain ⟨k, v⟩ := e
    simp [fieldActions, ih]

end Value

/-! ## The pattern language -/

namespace Grammar

variable {valid : String → Prop} {ts : List Token}

theorem checked_of_isVerb (hvalid : ∀ p, valid p → IsPattern p) {word : String}
    {arguments : List String} {v : Verb} (h : IsVerb valid word arguments v) : v.Checked := by
  cases h with
  | prompt message => exact trivial
  | grep hlength hpatterns =>
    exact ⟨List.length_pos_iff.1 hlength, fun p hp => hvalid p (hpatterns p hp)⟩
  | sort _ => exact trivial
  | xargs hleast hmost => exact ⟨hleast, hmost⟩

theorem checked_of_callTokens (hvalid : ∀ p, valid p → IsPattern p) {v : Verb}
    (h : CallTokens valid ts v) : v.Checked := by
  obtain ⟨_, hverb⟩ := h
  exact checked_of_isVerb hvalid hverb

theorem checked_of_barCalls (hvalid : ∀ p, valid p → IsPattern p) {vs : List Verb}
    (h : BarCalls valid ts vs) : ∀ v ∈ vs, v.Checked := by
  induction h with
  | nil => exact nofun
  | cons hcall _ ih => exact List.forall_mem_cons.2 ⟨checked_of_callTokens hvalid hcall, ih⟩

theorem checked_of_actionTokens (hvalid : ∀ p, valid p → IsPattern p) {a : Action}
    (h : ActionTokens valid ts a) : a.Checked := by
  obtain ⟨htrigger, hpipeline⟩ := h
  refine ⟨a.verbs_ne_nil, hvalid _ htrigger, ?_⟩
  generalize a.verbs = vs at hpipeline
  obtain ⟨hcall, hcalls⟩ := hpipeline
  exact List.forall_mem_cons.2
    ⟨checked_of_callTokens hvalid hcall, checked_of_barCalls hvalid hcalls⟩

theorem checked_of_armTokens (hvalid : ∀ p, valid p → IsPattern p)
    {arms : List (String × Action)} (h : ArmTokens valid ts arms) : ∀ e ∈ arms, e.2.Checked := by
  induction h with
  | nil => exact nofun
  | cons haction _ ih =>
    exact List.forall_mem_cons.2 ⟨checked_of_actionTokens hvalid haction, ih⟩

theorem checked_of_expressionTokens (hvalid : ∀ p, valid p → IsPattern p) {v : Value}
    (h : ExpressionTokens valid ts v) : ∀ a ∈ v.actions, a.Checked := by
  cases h with
  | action haction =>
    intro a ha
    simp only [Value.actions, List.mem_singleton] at ha
    exact ha ▸ checked_of_actionTokens hvalid haction
  | @caseMatch _ arms m harms _ hselect =>
    intro a ha
    rw [Value.actions] at ha
    obtain ⟨⟨key, b⟩, he, rfl⟩ := List.mem_map.1 ha
    have hfound : m.select key = some b :=
      (NameMap.find?_eq_some_iff m.arms.ascending key b).2 he
    exact checked_of_armTokens hvalid harms _ ((hselect key b).1 hfound)

end Grammar

namespace Expression

theorem isPattern_of_passes {pattern : String} (h : Passes checkPattern pattern) :
    IsPattern pattern := by
  rw [Passes, checkPattern] at h
  split at h
  · rename_i p hread
    exact ⟨p, hread⟩
  · cases h

/-- What a text is read to is an expression of the grammar, over patterns that can be read. -/
theorem expressionTokens_of_ofText {text : String} {line : Nat} {v : Value}
    (h : ofText text line = .ok v) :
    ∃ body, Grammar.ExpressionTokens (Passes checkPattern) body v := by
  rw [ofText, ofTextWith] at h
  split at h
  · cases h
  · rename_i ts htokens
    obtain ⟨body, hbody, hdone⟩ := Token.done_last_scan htokens
    exact ⟨body, (ofTokens_eq_ok_iff hbody hdone).1 h⟩

end Expression

/-! ## Values -/

namespace Value

theorem checked_ofText {s : String} {line : Nat} {v : Value} (h : ofText s line = .ok v) :
    ∀ a ∈ v.actions, a.Checked := by
  unfold ofText at h
  dsimp only at h
  split at h
  · split at h
    · rename_i hread
      cases h
      obtain ⟨body, hbody⟩ := Expression.expressionTokens_of_ofText hread
      exact Grammar.checked_of_expressionTokens (fun _ => Expression.isPattern_of_passes) hbody
    · cases h
  · split at h <;> cases h <;> simp [actions]

mutual

theorem checked_ofNode {line : Nat} {n : Yaml.Node} {v : Value} (h : ofNode line n = .ok v) :
    ∀ a ∈ v.actions, a.Checked := by
  cases n with
  | null => rw [ofNode] at h; cases h
  | flag b => rw [ofNode] at h; cases h; simp [actions]
  | integer i =>
    rw [ofNode] at h
    split at h <;> cases h
    simp [actions]
  | float x => rw [ofNode] at h; cases h
  | text s => rw [ofNode] at h; exact checked_ofText h
  | sequence items =>
    rw [ofNode] at h
    split at h
    · cases h
    · rename_i vs hitems
      cases h
      rw [actions]
      exact checked_ofItems hitems
  | mapping entries =>
    rw [ofNode] at h
    split at h
    · cases h
    · rename_i fields hentries
      cases h
      rw [actions]
      intro a ha
      obtain ⟨e, he, ha⟩ := mem_fieldActions_iff.1 ha
      exact checked_ofEntries hentries e.2 (List.mem_map_of_mem he) a ha
  | tagged tag n => rw [ofNode] at h; cases h

theorem checked_ofItems {line : Nat} {ns : List Yaml.Node} {vs : List Value}
    (h : ofItems line ns = .ok vs) : ∀ a ∈ itemActions vs, a.Checked := by
  cases ns with
  | nil => rw [ofItems] at h; cases h; simp [itemActions]
  | cons n rest =>
    rw [ofItems] at h
    split at h
    · cases h
    · rename_i v hn
      split at h
      · cases h
      · rename_i vs' hrest
        cases h
        rw [itemActions]
        exact List.forall_mem_append.2 ⟨checked_ofNode hn, checked_ofItems hrest⟩

/-- A later entry with the key of an earlier one takes its place, and no other value comes in. -/
theorem checked_ofEntries {line : Nat} {es : List (Yaml.Node × Yaml.Node)} {fields : NameMap Value}
    (h : ofEntries line es = .ok fields) : ∀ v ∈ fields.values, ∀ a ∈ v.actions, a.Checked := by
  match es with
  | [] => rw [ofEntries] at h; cases h; exact nofun
  | (k, n) :: rest =>
    rw [ofEntries] at h
    split at h
    · cases h
    · split at h
      · cases h
      · rename_i v hn
        split at h
        · cases h
        · rename_i fields' hrest
          cases h
          intro w hw
          rcases NameMap.mem_values_insert hw with rfl | hw
          · exact checked_ofNode hn
          · exact checked_ofEntries hrest w hw

end

end Value

/-! ## Headers -/

namespace Header

/-- The values of a header, those of its variables first. -/
def values (h : Header) : List Value := h.declarations.map (·.value) ++ h.entries.values

theorem mem_values_iff {h : Header} {v : Value} :
    v ∈ h.values ↔ (∃ d ∈ h.declarations, d.value = v) ∨ v ∈ h.entries.values := by
  rw [values, List.mem_append, List.mem_map]

end Header

namespace Document

/-- The values of a compiled document are read from its header. -/
theorem isRead_of_compile {text : String} {d : Document} (hd : compile text = .ok d) :
    ∀ v ∈ d.header.values, Header.IsRead v := by
  obtain ⟨s, h, _, hheader, hok⟩ := compile_eq_ok_iff.1 hd
  obtain ⟨t, _, rfl⟩ := ofHeader_eq_ok hok
  unfold headerOf at hheader
  split at hheader
  · cases hheader
    exact nofun
  · have hcontents := Header.contents_of_ofText hheader
    intro v hv
    rcases Header.mem_values_iff.1 hv with ⟨decl, hdecl, rfl⟩ | hv
    · exact hcontents.declared decl hdecl
    · exact hcontents.kept v hv

/-- Every action in the header of a compiled document is checked. -/
theorem checked_of_compile {text : String} {d : Document} (hd : compile text = .ok d) :
    ∀ v ∈ d.header.values, ∀ a ∈ v.actions, a.Checked := by
  intro v hv
  obtain ⟨line, n, hn⟩ := isRead_of_compile hd v hv
  exact Value.checked_ofNode hn

end Document

end PromptScript
