import Mathlib.Data.List.Induction
import PromptScript.Proofs.SymbolKeys

/-!
# Proofs.SymbolHistory

A symbol table as an account of its requests. Which names are declared, and as what, is told by the
requests alone: a name is declared if it was added and not removed since, and its symbol is that of
the add that brought it, with the last values that updates have supplied for the fields since.

* `get?_after_iff`: what one request changes, looked at through one key.
* `records_run`: by induction, a table holds exactly what its history declares.
* `history_determines_table`: so every answer can be read off the history, and the way in which the
  names are spelled leaves no trace.
-/

namespace PromptScript

/-! ## Updates -/

/-- The symbol with the last value that updates supply for each of its fields. -/
def Symbol.overlaid (s : Symbol) (updates : List SymbolUpdate) : Symbol :=
  ⟨(updates.filterMap (·.type)).getLastD s.type, (updates.filterMap (·.scope)).getLastD s.scope,
    (updates.filterMap (·.line)).getLastD s.line⟩

theorem getLastD_filterMap_concat {α : Type} (field : SymbolUpdate → Option α) (first : α)
    (updates : List SymbolUpdate) (u : SymbolUpdate) :
    ((updates ++ [u]).filterMap field).getLastD first =
      (field u).getD ((updates.filterMap field).getLastD first) := by
  rw [List.filterMap_append]
  cases hfield : field u <;> simp [hfield]

/-- Updates one after the other are one overlay. -/
theorem Symbol.overlaid_concat (s : Symbol) (updates : List SymbolUpdate) (u : SymbolUpdate) :
    s.overlaid (updates ++ [u]) = u.apply (s.overlaid updates) := by
  simp only [overlaid, SymbolUpdate.apply, getLastD_filterMap_concat]

/-! ## Requests -/

namespace TableRequest

def name : TableRequest → String
  | .add name _ => name
  | .addBuiltIn name _ _ => name
  | .get name => name
  | .update name _ => name
  | .remove name => name
  | .contains name => name

def withName (name : String) : TableRequest → TableRequest
  | .add _ s => .add name s
  | .addBuiltIn _ type line => .addBuiltIn name type line
  | .get _ => .get name
  | .update _ u => .update name u
  | .remove _ => .remove name
  | .contains _ => .contains name

/-- The key that a request is about. -/
def key (r : TableRequest) : String := canonicalName r.name

/-- The same request with its name spelled in another way. -/
def Respells (r r' : TableRequest) : Prop :=
  ∃ name, canonicalName name = r.key ∧ r' = r.withName name

/-- The symbol that a request is to declare. -/
def symbol? : TableRequest → Option Symbol
  | .add _ s => some s
  | .addBuiltIn _ type line => some ⟨type, .builtIn, line⟩
  | _ => none

def update? : TableRequest → Option SymbolUpdate
  | .update _ u => some u
  | _ => none

/-- A request that declares the key as the symbol. -/
def Adds (r : TableRequest) (key : String) (s : Symbol) : Prop := r.key = key ∧ r.symbol? = some s

def Removes (r : TableRequest) (key : String) : Prop :=
  ∃ name, r = .remove name ∧ canonicalName name = key

theorem Adds.not_removes {r : TableRequest} {key : String} {s : Symbol} (h : r.Adds key s) :
    ¬ r.Removes key := by
  rintro ⟨name, rfl, _⟩
  cases h.2

/-- What a request supplies for the symbol of a key. -/
def updateOf? (key : String) (r : TableRequest) : Option SymbolUpdate :=
  if r.key = key then r.update? else none

/-- A request that only a declared name can be given. -/
def NeedsDeclared : TableRequest → Prop
  | .get _ | .update _ _ | .remove _ => True
  | _ => False

end TableRequest

/-! ## Histories -/

section Histories

variable {history : List TableRequest} {key : String} {r : TableRequest} {s : Symbol}

/-- The key was added, and has not been removed since. -/
def Declared (history : List TableRequest) (key : String) : Prop :=
  ∃ before r after, history = before ++ r :: after ∧ (∃ s, r.Adds key s) ∧
    ∀ r' ∈ after, ¬ r'.Removes key

/-- The key is declared, and its symbol is that of the last add that could succeed, with what
updates have supplied since. -/
def DeclaredAs (history : List TableRequest) (key : String) (s : Symbol) : Prop :=
  ∃ before r after first, history = before ++ r :: after ∧ r.Adds key first ∧
    ¬ Declared before key ∧ (∀ r' ∈ after, ¬ r'.Removes key) ∧
    s = first.overlaid (after.filterMap (TableRequest.updateOf? key))

theorem not_declared_nil : ¬ Declared [] key := by
  rintro ⟨before, r, after, hnil, _⟩
  simp at hnil

/-- A history is cut at its last request or before it. -/
theorem concat_eq_append_cons_iff {before after : List TableRequest} {r' : TableRequest} :
    history ++ [r] = before ++ r' :: after ↔
      (history = before ∧ r = r' ∧ after = []) ∨
        ∃ after', history = before ++ r' :: after' ∧ after = after' ++ [r] := by
  constructor
  · intro h
    rcases List.eq_nil_or_concat after with rfl | ⟨after', last, hconcat⟩
    · obtain ⟨hbefore, hlast⟩ := List.append_inj' h rfl
      exact .inl ⟨hbefore, (List.cons.inj hlast).1, rfl⟩
    · rw [List.concat_eq_append] at hconcat
      rw [hconcat, ← List.cons_append, ← List.append_assoc] at h
      obtain ⟨hhistory, hlast⟩ := List.append_inj' h rfl
      exact .inr ⟨after', hhistory, by rw [hconcat, (List.cons.inj hlast).1]⟩
  · rintro (⟨rfl, rfl, rfl⟩ | ⟨after', rfl, rfl⟩)
    · rfl
    · simp

theorem declared_concat :
    Declared (history ++ [r]) key ↔
      (∃ s, r.Adds key s) ∨ (¬ r.Removes key ∧ Declared history key) := by
  constructor
  · rintro ⟨before, r', after, hcut, hadds, hafter⟩
    rcases concat_eq_append_cons_iff.1 hcut with ⟨-, rfl, -⟩ | ⟨after', rfl, rfl⟩
    · exact .inl hadds
    · rw [List.forall_mem_append, List.forall_mem_singleton] at hafter
      exact .inr ⟨hafter.2, before, r', after', rfl, hadds, hafter.1⟩
  · rintro (hadds | ⟨hkept, before, r', after', rfl, hadds, hafter⟩)
    · exact ⟨history, r, [], rfl, hadds, nofun⟩
    · refine ⟨before, r', after' ++ [r], by simp, hadds, ?_⟩
      rw [List.forall_mem_append, List.forall_mem_singleton]
      exact ⟨hafter, hkept⟩

theorem overlaid_concat_updateOf? (first : Symbol) (after : List TableRequest) :
    first.overlaid ((after ++ [r]).filterMap (TableRequest.updateOf? key)) =
      (r.updateOf? key).elim id SymbolUpdate.apply
        (first.overlaid (after.filterMap (TableRequest.updateOf? key))) := by
  rw [List.filterMap_append]
  cases hupdate : r.updateOf? key with
  | none => simp [hupdate]
  | some u => simp [hupdate, Symbol.overlaid_concat]

theorem declaredAs_concat :
    DeclaredAs (history ++ [r]) key s ↔
      (r.Adds key s ∧ ¬ Declared history key) ∨
        (¬ r.Removes key ∧ ∃ s₀, DeclaredAs history key s₀ ∧
          s = (r.updateOf? key).elim id SymbolUpdate.apply s₀) := by
  constructor
  · rintro ⟨before, r', after, first, hcut, hadds, hfresh, hafter, rfl⟩
    rcases concat_eq_append_cons_iff.1 hcut with ⟨rfl, rfl, rfl⟩ | ⟨after', rfl, rfl⟩
    · exact .inl ⟨hadds, hfresh⟩
    · rw [List.forall_mem_append, List.forall_mem_singleton] at hafter
      refine .inr ⟨hafter.2, _, ⟨before, r', after', first, rfl, hadds, hfresh, hafter.1, rfl⟩, ?_⟩
      exact overlaid_concat_updateOf? first after'
  · rintro (⟨hadds, hfresh⟩ | ⟨hkept, _, ⟨before, r', after', first, rfl, hadds, hfresh, hafter,
      rfl⟩, rfl⟩)
    · exact ⟨history, r, [], s, rfl, hadds, hfresh, nofun, rfl⟩
    · refine ⟨before, r', after' ++ [r], first, by simp, hadds, hfresh, ?_, ?_⟩
      · rw [List.forall_mem_append, List.forall_mem_singleton]
        exact ⟨hafter, hkept⟩
      · exact (overlaid_concat_updateOf? first after').symm

end Histories

namespace SymbolTable

/-! ## One request -/

section Requests

variable {t : SymbolTable} {r r' : TableRequest} {key : String} {s : Symbol}

/-- What a request is answered, if it is not refused. -/
inductive Answer where
  | done
  | symbol (s : Symbol)
  | present (b : Bool)
  deriving DecidableEq, Repr

def answer (t : SymbolTable) : TableRequest → Except SymbolError Answer
  | .add name s => (t.add name s).1.map fun _ => .done
  | .addBuiltIn name type line => (t.addBuiltIn name type line).1.map fun _ => .done
  | .get name => (t.get name).map .symbol
  | .update name u => (t.update name u).1.map fun _ => .done
  | .remove name => (t.remove name).1.map fun _ => .done
  | .contains name => .ok (.present (t.contains name))

/-- The answers to requests one after the other, each with the table that it leaves. -/
def trace (t : SymbolTable) :
    List TableRequest → List (Except SymbolError Answer × SymbolTable)
  | [] => []
  | r :: rest => (t.answer r, t.after r) :: (t.after r).trace rest

/-- A refused request leaves the table as it is. -/
theorem after_of_error {e : SymbolError} (h : t.answer r = .error e) : t.after r = t := by
  have herror {x : Except SymbolError Unit} (hx : x.map (fun _ => Answer.done) = .error e) :
      x = .error e := by
    cases x with
    | error e' => cases hx; rfl
    | ok _ => cases hx
  cases r with
  | add name s => exact add_of_error (herror h)
  | addBuiltIn name type line => exact add_of_error (herror h)
  | get name => rfl
  | update name u => exact update_of_error (herror h)
  | remove name => exact remove_of_error (herror h)
  | contains name => rfl

/-- No operation looks at a name but through its canonical form. -/
theorem answer_withName {name : String} (h : canonicalName name = r.key) :
    t.answer (r.withName name) = t.answer r ∧ t.after (r.withName name) = t.after r := by
  cases r <;>
    simp only [TableRequest.key, TableRequest.name] at h <;>
    simp only [TableRequest.withName, answer, after, add, addBuiltIn, get, update, remove, contains,
      h, and_self]

theorem trace_of_respells {requests requests' : List TableRequest}
    (h : List.Forall₂ TableRequest.Respells requests requests') :
    t.trace requests' = t.trace requests := by
  induction h generalizing t with
  | nil => rfl
  | cons hrespells _ ih =>
    obtain ⟨name, hname, rfl⟩ := hrespells
    obtain ⟨hanswer, hafter⟩ := answer_withName (t := t) hname
    rw [trace, trace, hanswer, hafter, ih]

/-- A request that neither removes the key nor supplies anything for it keeps its symbol. -/
theorem kept_iff (hremoves : ¬ r.Removes key) (hupdate : r.update? = none) :
    (¬ r.Removes key ∧ ∃ s₀, t.symbols.get? key = some s₀ ∧
      s = (r.updateOf? key).elim id SymbolUpdate.apply s₀) ↔ t.symbols.get? key = some s := by
  have hnone : r.updateOf? key = none := by
    rw [TableRequest.updateOf?, hupdate, ite_self]
  simp [hremoves, hnone]

/-- What one request does to the symbol of a key: it declares the key, or it removes it, or it keeps
the symbol with the values that it supplies. -/
theorem get?_after_iff :
    (t.after r).symbols.get? key = some s ↔
      (r.Adds key s ∧ t.symbols.get? key = none) ∨
        (¬ r.Removes key ∧ ∃ s₀, t.symbols.get? key = some s₀ ∧
          s = (r.updateOf? key).elim id SymbolUpdate.apply s₀) := by
  cases r with
  | add name first =>
    rw [kept_iff (by rintro ⟨_, ⟨⟩, _⟩) rfl, after, get?_add, TableRequest.Adds, and_assoc]
    simp [TableRequest.key, TableRequest.name, TableRequest.symbol?]
  | addBuiltIn name type line =>
    rw [kept_iff (by rintro ⟨_, ⟨⟩, _⟩) rfl, after, addBuiltIn, get?_add, TableRequest.Adds,
      and_assoc]
    simp [TableRequest.key, TableRequest.name, TableRequest.symbol?]
  | get name =>
    rw [kept_iff (by rintro ⟨_, ⟨⟩, _⟩) rfl, after]
    simp [TableRequest.Adds, TableRequest.symbol?]
  | contains name =>
    rw [kept_iff (by rintro ⟨_, ⟨⟩, _⟩) rfl, after]
    simp [TableRequest.Adds, TableRequest.symbol?]
  | update name u =>
    have hupdate : (TableRequest.update name u).updateOf? key =
        if canonicalName name = key then some u else none := rfl
    rw [after, get?_update, hupdate]
    by_cases hkey : canonicalName name = key <;>
      simp [hkey, TableRequest.Adds, TableRequest.Removes, TableRequest.symbol?]
  | remove name =>
    have hupdate : (TableRequest.remove name).updateOf? key = none := ite_self none
    have hremoves : (TableRequest.remove name).Removes key ↔ canonicalName name = key := by
      simp [TableRequest.Removes]
    rw [after, get?_remove, hupdate, hremoves]
    simp [TableRequest.Adds, TableRequest.symbol?]

end Requests

/-! ## Runs -/

/-- The table holds what the history declares, and nothing else. -/
structure Records (history : List TableRequest) (t : SymbolTable) : Prop where
  symbol_iff : ∀ key s, t.symbols.get? key = some s ↔ DeclaredAs history key s
  declared_iff : ∀ key, (∃ s, t.symbols.get? key = some s) ↔ Declared history key

section Histories

variable {history : List TableRequest} {t : SymbolTable} {r : TableRequest} {key : String}

theorem records_empty : Records [] empty where
  symbol_iff key s := by
    constructor
    · intro h
      cases h
    · rintro ⟨before, r, after, first, hnil, _⟩
      simp at hnil
  declared_iff key := by
    constructor
    · rintro ⟨s, h⟩
      cases h
    · exact fun h => absurd h not_declared_nil

theorem Records.get?_eq_none_iff (h : Records history t) :
    t.symbols.get? key = none ↔ ¬ Declared history key := by
  rw [← h.declared_iff, Option.eq_none_iff_forall_ne_some, not_exists]

/-- The history grows by a request, and the table follows. -/
theorem Records.after (h : Records history t) (r : TableRequest) :
    Records (history ++ [r]) (t.after r) where
  symbol_iff key s := by
    simp only [get?_after_iff, declaredAs_concat, h.symbol_iff, h.get?_eq_none_iff]
  declared_iff key := by
    rw [declared_concat, ← h.declared_iff]
    simp only [get?_after_iff, h.get?_eq_none_iff]
    constructor
    · rintro ⟨s, ⟨hadds, _⟩ | ⟨hkept, s₀, hs₀, _⟩⟩
      · exact .inl ⟨s, hadds⟩
      · exact .inr ⟨hkept, s₀, hs₀⟩
    · rintro (⟨s, hadds⟩ | ⟨hkept, s₀, hs₀⟩)
      · -- an add that comes too late leaves the symbol that the key has
        by_cases hdeclared : Declared history key
        · obtain ⟨s₀, hs₀⟩ := (h.declared_iff key).2 hdeclared
          exact ⟨_, .inr ⟨hadds.not_removes, s₀, hs₀, rfl⟩⟩
        · exact ⟨s, .inl ⟨hadds, hdeclared⟩⟩
      · exact ⟨_, .inr ⟨hkept, s₀, hs₀, rfl⟩⟩

/-- A table that requests have filled holds what they declare. -/
theorem records_run (history : List TableRequest) : Records history (empty.run history) := by
  induction history using List.reverseRecOn with
  | nil => exact records_empty
  | append_singleton history r ih =>
    rw [run, List.foldl_append]
    exact ih.after r

end Histories

/-! ## Answers -/

/-- What a request is answered, told by the history alone. -/
inductive Answered (history : List TableRequest) :
    TableRequest → Except SymbolError Answer → Prop where
  | added {r : TableRequest} {s : Symbol} : r.symbol? = some s → ¬ Declared history r.key →
      Answered history r (.ok .done)
  | duplicate {r : TableRequest} {s first : Symbol} : r.symbol? = some s →
      DeclaredAs history r.key first → Answered history r (.error (.duplicate r.key first))
  | found {name : String} {s : Symbol} : DeclaredAs history (canonicalName name) s →
      Answered history (.get name) (.ok (.symbol s))
  | updated {name : String} {u : SymbolUpdate} : Declared history (canonicalName name) →
      Answered history (.update name u) (.ok .done)
  | removed {name : String} : Declared history (canonicalName name) →
      Answered history (.remove name) (.ok .done)
  | undeclared {r : TableRequest} : r.NeedsDeclared → ¬ Declared history r.key →
      Answered history r (.error (.undeclared r.key))
  | contained {name : String} {b : Bool} : (b = true ↔ Declared history (canonicalName name)) →
      Answered history (.contains name) (.ok (.present b))

section Answers

variable {history : List TableRequest} {t : SymbolTable} {r : TableRequest} {s first : Symbol}
  {a : Except SymbolError Answer}

theorem answer_of_symbol? (hs : r.symbol? = some s) :
    t.answer r = (t.add r.name s).1.map fun _ => .done := by
  cases r with
  | add | addBuiltIn =>
    cases hs
    rfl
  | get | update | remove | contains => cases hs

theorem answer_of_absent (hs : r.symbol? = some s) (h : t.symbols.get? r.key = none) :
    t.answer r = .ok .done := by
  rw [answer_of_symbol? hs, add_eq_ok_iff.2 ⟨h, rfl⟩]
  rfl

theorem answer_of_taken (hs : r.symbol? = some s) (h : t.symbols.get? r.key = some first) :
    t.answer r = .error (.duplicate r.key first) := by
  rw [TableRequest.key] at h ⊢
  rw [answer_of_symbol? hs, add, h]
  rfl

theorem answer_of_undeclared (hr : r.NeedsDeclared) (h : t.symbols.get? r.key = none) :
    t.answer r = .error (.undeclared r.key) := by
  cases r with
  | get name | update name u | remove name =>
    simp only [TableRequest.key, TableRequest.name] at h ⊢
    simp only [answer, get, update, remove, h]
    rfl
  | add | addBuiltIn | contains => cases hr

/-- The answer that the history tells is the answer of the table. -/
theorem Records.answer_eq (h : Records history t) (ha : Answered history r a) : t.answer r = a := by
  have hheld {name : String} (hdeclared : Declared history (canonicalName name)) :
      ∃ s, t.symbols.get? (canonicalName name) = some s := (h.declared_iff _).2 hdeclared
  cases ha with
  | added hs hfresh => exact answer_of_absent hs (h.get?_eq_none_iff.2 hfresh)
  | duplicate hs hfirst => exact answer_of_taken hs ((h.symbol_iff _ _).2 hfirst)
  | found hfound =>
    rw [answer, get_eq_ok_iff.2 ((h.symbol_iff _ _).2 hfound)]
    rfl
  | updated hdeclared =>
    obtain ⟨s, hs⟩ := hheld hdeclared
    rw [answer, update_eq_ok_iff.2 ⟨s, hs, rfl⟩]
    rfl
  | removed hdeclared =>
    rw [answer, remove_eq_ok_iff.2 ⟨hheld hdeclared, rfl⟩]
    rfl
  | undeclared hr habsent => exact answer_of_undeclared hr (h.get?_eq_none_iff.2 habsent)
  | @contained name b hb =>
    have hcontains : t.contains name = b := by
      rw [Bool.eq_iff_iff, hb, contains, NameMap.contains_eq_true_iff, h.declared_iff]
    rw [answer, hcontains]

/-- Every request has an answer. -/
theorem Records.exists_answered (h : Records history t) (r : TableRequest) :
    ∃ a, Answered history r a := by
  have hsymbol {s : Symbol} (hs : r.symbol? = some s) : ∃ a, Answered history r a := by
    by_cases hdeclared : Declared history r.key
    · obtain ⟨first, hfirst⟩ := (h.declared_iff _).2 hdeclared
      exact ⟨_, .duplicate hs ((h.symbol_iff _ _).1 hfirst)⟩
    · exact ⟨_, .added hs hdeclared⟩
  cases r with
  | add name s => exact hsymbol rfl
  | addBuiltIn name type line => exact hsymbol rfl
  | get name =>
    by_cases hdeclared : Declared history (canonicalName name)
    · obtain ⟨s, hs⟩ := (h.declared_iff _).2 hdeclared
      exact ⟨_, .found ((h.symbol_iff _ _).1 hs)⟩
    · exact ⟨_, .undeclared trivial hdeclared⟩
  | update name u =>
    by_cases hdeclared : Declared history (canonicalName name)
    · exact ⟨_, .updated hdeclared⟩
    · exact ⟨_, .undeclared trivial hdeclared⟩
  | remove name =>
    by_cases hdeclared : Declared history (canonicalName name)
    · exact ⟨_, .removed hdeclared⟩
    · exact ⟨_, .undeclared trivial hdeclared⟩
  | contains name =>
    by_cases hdeclared : Declared history (canonicalName name)
    · exact ⟨_, .contained (b := true) (iff_of_true rfl hdeclared)⟩
    · exact ⟨_, .contained (b := false) (iff_of_false nofun hdeclared)⟩

theorem Records.answer_iff (h : Records history t) : t.answer r = a ↔ Answered history r a := by
  refine ⟨fun ha => ?_, h.answer_eq⟩
  obtain ⟨a', ha'⟩ := h.exists_answered r
  rwa [← ha, h.answer_eq ha']

end Answers

/-- A table is determined by its history up to the spelling of names, a refused request leaves it as
it is, and the history tells what it holds and what it answers. -/
theorem history_determines_table (history : List TableRequest) :
    (∀ respelled, List.Forall₂ TableRequest.Respells history respelled →
      empty.trace respelled = empty.trace history) ∧
    (∀ r e, (empty.run history).answer r = .error e →
      (empty.run history).after r = empty.run history) ∧
    (∀ r a, (empty.run history).answer r = a ↔ Answered history r a) ∧
    (∀ key s, (empty.run history).symbols.get? key = some s ↔ DeclaredAs history key s) ∧
    ∀ key, Declared history key ↔ ∃ s, DeclaredAs history key s := by
  have hrecords := records_run history
  refine ⟨fun respelled h => trace_of_respells h, fun r e h => after_of_error h,
    fun r a => hrecords.answer_iff, hrecords.symbol_iff, fun key => ?_⟩
  simp only [← hrecords.declared_iff, hrecords.symbol_iff]

/-- A name that is added twice, updated, removed, and then added and updated again. -/
def renewedRequests : List TableRequest :=
  [.add "x" ⟨.text, .userDefined, 1⟩, .add "\x7bx\x7d" ⟨.flag, .userDefined, 2⟩,
    .update "context.x" ⟨none, none, some 3⟩, .remove "x", .addBuiltIn "context.x" .number 4,
    .update "x" ⟨some .text, none, none⟩, .update "x" ⟨none, none, some 6⟩]

/-- The same requests with the names spelled in other ways. -/
def respelledRequests : List TableRequest :=
  [.add "context.x" ⟨.text, .userDefined, 1⟩, .add "x" ⟨.flag, .userDefined, 2⟩,
    .update "\x7bcontext.x\x7d" ⟨none, none, some 3⟩, .remove "\x7bx\x7d",
    .addBuiltIn "x" .number 4, .update "context.x" ⟨some .text, none, none⟩,
    .update "\x7bx\x7d" ⟨none, none, some 6⟩]

theorem history_determines_table_renewed :
    List.Forall₂ TableRequest.Respells renewedRequests respelledRequests ∧
      empty.trace respelledRequests = empty.trace renewedRequests ∧
      (empty.run renewedRequests).answer (.add "context.x" ⟨.text, .userDefined, 7⟩) =
        .error (.duplicate "x" ⟨.text, .builtIn, 6⟩) ∧
      (empty.run renewedRequests).after (.add "context.x" ⟨.text, .userDefined, 7⟩) =
        empty.run renewedRequests ∧
      DeclaredAs renewedRequests "x" ⟨.text, .builtIn, 6⟩ := by
  obtain ⟨hspelling, hrefused, -, hsymbol, -⟩ := history_determines_table renewedRequests
  have hrespells : List.Forall₂ TableRequest.Respells renewedRequests respelledRequests :=
    .cons ⟨_, by decide, rfl⟩ <| .cons ⟨_, by decide, rfl⟩ <| .cons ⟨_, by decide, rfl⟩ <|
      .cons ⟨_, by decide, rfl⟩ <| .cons ⟨_, by decide, rfl⟩ <| .cons ⟨_, by decide, rfl⟩ <|
      .cons ⟨_, by decide, rfl⟩ .nil
  have hanswer : (empty.run renewedRequests).answer (.add "context.x" ⟨.text, .userDefined, 7⟩) =
      .error (.duplicate "x" ⟨.text, .builtIn, 6⟩) := by decide +kernel
  have hget : (empty.run renewedRequests).symbols.get? "x" = some ⟨.text, .builtIn, 6⟩ := by
    decide +kernel
  exact ⟨hrespells, hspelling _ hrespells, hanswer, hrefused _ _ hanswer, (hsymbol _ _).1 hget⟩

end SymbolTable

end PromptScript
