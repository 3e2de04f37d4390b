import Mathlib.Data.List.Forall2
import PromptScript.Proofs.DateTexts
import PromptScript.Proofs.NodeParts
import PromptScript.Proofs.PatternLiterals
import PromptScript.Proofs.TokenLines

/-!
# Proofs.Conversion

From the values of a YAML text to the values of a header. Nothing but an unfit part keeps a value
out of a header (`exists_ofNode_iff`), and what it becomes keeps its structure
(`ofNode_eq_ok_iff`): a relation, `Becomes`, says for each kind of value what it becomes, and the
kind of a text is told by its first characters and by the calendar.
-/

namespace PromptScript

/-! ## What an expression begins with -/

namespace Expression

variable {check : String → Checked Unit} {ts : List PlacedToken} {text : String} {line : Nat}
  {v : Value}

theorem exists_leading_of_ofTokens (h : ofTokens check ts = .ok v) :
    ∃ rest, leading check ts = .ok (v, rest) := by
  unfold ofTokens at h
  split at h
  · cases h
  · rename_i hleading
    split at h <;> cases h
    exact ⟨_, hleading⟩

/-- The word that begins a case match makes one of what follows, and nothing else does. -/
theorem kind_of_ofTokens (h : ofTokens check ts = .ok v) :
    ((next ts).token = .word caseWord ∧ ∃ m, v = .caseMatch m) ∨
      ((next ts).token ≠ .word caseWord ∧ ∃ a, v = .action a) := by
  obtain ⟨rest, hleading⟩ := exists_leading_of_ofTokens h
  unfold leading at hleading
  split at hleading
  · rename_i hword
    cases hread : caseMatch check (ts.drop 1) with
    | error e => rw [hread] at hleading; cases hleading
    | ok r => rw [hread] at hleading; cases hleading; exact .inl ⟨hword, _, rfl⟩
  · rename_i hword
    cases hread : action check ts with
    | error e => rw [hread] at hleading; cases hleading
    | ok r => rw [hread] at hleading; cases hleading; exact .inr ⟨hword, _, rfl⟩

/-- A text that starts with a slash writes an action or nothing. -/
theorem exists_action_of_slash (hstart : ['/'] <+: text.toList)
    (h : ofText text line = .ok v) : ∃ a, v = .action a := by
  obtain ⟨rest, hrest⟩ := hstart
  unfold ofText ofTextWith at h
  split at h
  · cases h
  · rename_i ts htokens
    rw [Token.ofText, ← hrest, List.singleton_append] at htokens
    obtain ⟨made, mode, others, hadvance, hothers, rfl⟩ := Token.scan_cons_eq_ok_iff.1 htokens
    cases hadvance
    obtain ⟨_, _, _, -, -, more, -, rfl⟩ :=
      (Token.completes_pattern_and_slash rest).1 _ _ hothers
    rcases kind_of_ofTokens h with ⟨hword, -⟩ | ⟨-, haction⟩
    · cases hword
    · exact haction

/-- A text that starts with the word of a case match and a space writes a case match or nothing. -/
theorem exists_caseMatch_of_caseWord (hstart : "case ".toList <+: text.toList)
    (h : ofText text line = .ok v) : ∃ m, v = .caseMatch m := by
  obtain ⟨rest, hrest⟩ := hstart
  have hreads : Token.Reads .between "case ".toList [.word caseWord] .between :=
    ⟨by decide, by rfl⟩
  unfold ofText ofTextWith at h
  split at h
  · cases h
  · rename_i ts htokens
    rw [Token.ofText, ← hrest, hreads.scan] at htokens
    split at htokens
    · cases htokens
    · cases htokens
      rcases kind_of_ofTokens h with ⟨-, hcase⟩ | ⟨hword, -⟩
      · exact hcase
      · exact absurd rfl hword

end Expression

namespace Value

open Yaml (Node)
open Yaml.Node

variable {line : Nat} {v : Value} {s : String}

/-! ## Texts -/

/-- Without the blanks around it, the text begins like an action or a case match. -/
def StartsExpression (s : String) : Prop :=
  ['/'] <+: trim s.toList ∨ "case ".toList <+: trim s.toList

theorem toList_trimmed (s : String) : (trimmed s).toList = trim s.toList := String.toList_ofList

theorem isExpression_iff : isExpression (trim s.toList) = true ↔ StartsExpression s := by
  have hslash : ((trim s.toList).head? == some '/') = true ↔ ['/'] <+: trim s.toList := by
    cases trim s.toList with
    | nil => simp
    | cons c cs =>
      rw [List.cons_prefix_cons, List.head?_cons, beq_iff_eq, Option.some.injEq,
        and_iff_left List.nil_prefix]
      exact eq_comm
  rw [isExpression, Bool.or_eq_true, hslash, List.isPrefixOf_iff_prefix]
  rfl

/-- What a text becomes. Blanks around it count for nothing, but stay where it remains a text. -/
inductive TextBecomes (line : Nat) (s : String) : Value → Prop where
  | action {a : Action} : ['/'] <+: trim s.toList →
      Expression.ofText (trimmed s) line = .ok (.action a) → TextBecomes line s (.action a)
  | caseMatch {m : CaseMatch} : "case ".toList <+: trim s.toList →
      Expression.ofText (trimmed s) line = .ok (.caseMatch m) → TextBecomes line s (.caseMatch m)
  | date : ¬ StartsExpression s → (trimmed s).utf8ByteSize = 10 → NamesDay (trim s.toList) →
      TextBecomes line s (.date (trimmed s))
  | text : ¬ StartsExpression s → ¬ ((trimmed s).utf8ByteSize = 10 ∧ NamesDay (trim s.toList)) →
      TextBecomes line s (.text s)

theorem ofText_of_expression (hstart : StartsExpression s) :
    ofText s line = .ok v ↔ Expression.ofText (trimmed s) line = .ok v := by
  unfold ofText
  dsimp only
  rw [if_pos (isExpression_iff.2 hstart), ← trimmed]
  cases Expression.ofText (trimmed s) line <;> simp

theorem ofText_eq_ok_iff : ofText s line = .ok v ↔ TextBecomes line s v := by
  by_cases hstart : StartsExpression s
  · rw [ofText_of_expression hstart]
    constructor
    · intro h
      rcases hstart with hslash | hword
      · obtain ⟨a, rfl⟩ :=
          Expression.exists_action_of_slash (by rw [toList_trimmed]; exact hslash) h
        exact .action hslash h
      · obtain ⟨m, rfl⟩ :=
          Expression.exists_caseMatch_of_caseWord (by rw [toList_trimmed]; exact hword) h
        exact .caseMatch hword h
    · intro h
      cases h with
      | action _ hread => exact hread
      | caseMatch _ hread => exact hread
      | date hplain => exact absurd hstart hplain
      | text hplain => exact absurd hstart hplain
  · have hdate : isDate (trim s.toList) = true ↔
        (trimmed s).utf8ByteSize = 10 ∧ NamesDay (trim s.toList) := by
      rw [isDate_iff_namesDay, trimmed, and_iff_right_of_imp utf8ByteSize_of_namesDay]
    unfold ofText
    dsimp only
    rw [if_neg (mt isExpression_iff.1 hstart)]
    constructor
    · intro h
      split at h <;> cases h <;> rename_i hday
      · obtain ⟨hsize, hnames⟩ := hdate.1 hday
        exact .date hstart hsize hnames
      · exact .text hstart (mt hdate.2 hday)
    · intro h
      cases h with
      | action hslash => exact absurd (.inl hslash) hstart
      | caseMatch hword => exact absurd (.inr hword) hstart
      | date _ hsize hnames => exact if_pos (hdate.2 ⟨hsize, hnames⟩)
      | text _ hno => exact if_neg (mt hdate.1 hno)

theorem exists_ofText_iff :
    (∃ v, ofText s line = .ok v) ↔
      ¬ (StartsExpression s ∧ ∀ v, Expression.ofText (trimmed s) line ≠ .ok v) := by
  by_cases hstart : StartsExpression s
  · simp [ofText_of_expression hstart, hstart]
  · simp only [hstart, false_and, not_false_eq_true, iff_true]
    by_cases hday : (trimmed s).utf8ByteSize = 10 ∧ NamesDay (trim s.toList)
    · exact ⟨_, ofText_eq_ok_iff.2 (.date hstart hday.1 hday.2)⟩
    · exact ⟨_, ofText_eq_ok_iff.2 (.text hstart hday)⟩

/-! ## What keeps a value out -/

/-- What no header can hold. -/
inductive Unfit (line : Nat) : Node → Prop where
  | null : Unfit line .null
  | tagged (tag : String) (n : Node) : Unfit line (.tagged tag n)
  | float (x : Binary64) : Unfit line (.float x)
  | integer {i : Int} : ¬ (-(twoTo 63 : Int) ≤ i ∧ i < twoTo 63) → Unfit line (.integer i)
  | key {e : Node × Node} {entries : List (Node × Node)} :
      e ∈ entries → (∀ key, e.1 ≠ .text key) → Unfit line (.mapping entries)
  | text {s : String} : StartsExpression s → (∀ v, Expression.ofText (trimmed s) line ≠ .ok v) →
      Unfit line (.text s)

theorem fitsSigned64_iff {i : Int} :
    fitsSigned64 i = true ↔ -(twoTo 63 : Int) ≤ i ∧ i < twoTo 63 := by
  rw [fitsSigned64, Bool.and_eq_true, decide_eq_true_eq, decide_eq_true_eq]

theorem ofItems_cons_eq_ok_iff {n : Node} {rest : List Node} {vs : List Value} :
    ofItems line (n :: rest) = .ok vs ↔
      ∃ v others, ofNode line n = .ok v ∧ ofItems line rest = .ok others ∧ vs = v :: others := by
  rw [ofItems]
  cases ofNode line n with
  | error e => simp
  | ok v => cases ofItems line rest <;> simp [eq_comm]

theorem keyText_eq_ok_iff {k : Node} {key : String} :
    keyText k line = .ok key ↔ k = .text key := by
  unfold keyText
  split
  · simp
  · rename_i hother
    simpa using hother key

theorem ofEntries_cons_eq_ok_iff {e : Node × Node} {rest : List (Node × Node)}
    {fields : NameMap Value} :
    ofEntries line (e :: rest) = .ok fields ↔
      ∃ key v others, e.1 = .text key ∧ ofNode line e.2 = .ok v ∧
        ofEntries line rest = .ok others ∧ fields = others.insert key v := by
  obtain ⟨k, n⟩ := e
  rw [ofEntries]
  simp only [← @keyText_eq_ok_iff line]
  cases keyText k line with
  | error e => simp
  | ok key =>
    cases ofNode line n with
    | error e => simp
    | ok v => cases ofEntries line rest <;> simp [eq_comm]

/-- Items are converted one by one, in their order. -/
theorem ofItems_eq_ok_iff {items : List Node} {vs : List Value} :
    ofItems line items = .ok vs ↔ List.Forall₂ (fun n v => ofNode line n = .ok v) items vs := by
  induction items generalizing vs with
  | nil => rw [ofItems, List.forall₂_nil_left_iff, Except.ok.injEq, eq_comm]
  | cons n rest ih =>
    simp only [ofItems_cons_eq_ok_iff, ih, List.forall₂_cons_left_iff, exists_and_left]

theorem exists_ofItems_iff {items : List Node} :
    (∃ vs, ofItems line items = .ok vs) ↔ ∀ n ∈ items, ∃ v, ofNode line n = .ok v := by
  induction items with
  | nil => simp [ofItems]
  | cons n rest ih =>
    rw [List.forall_mem_cons, ← ih]
    simp only [ofItems_cons_eq_ok_iff]
    constructor
    · rintro ⟨_, v, others, hn, hrest, -⟩
      exact ⟨⟨v, hn⟩, others, hrest⟩
    · rintro ⟨⟨v, hn⟩, others, hrest⟩
      exact ⟨_, v, others, hn, hrest, rfl⟩

theorem exists_ofEntries_iff {entries : List (Node × Node)} :
    (∃ fields, ofEntries line entries = .ok fields) ↔
      ∀ e ∈ entries, (∃ key, e.1 = .text key) ∧ ∃ v, ofNode line e.2 = .ok v := by
  induction entries with
  | nil => simp [ofEntries]
  | cons e rest ih =>
    rw [List.forall_mem_cons, ← ih]
    simp only [ofEntries_cons_eq_ok_iff]
    constructor
    · rintro ⟨_, key, v, others, hkey, hn, hrest, -⟩
      exact ⟨⟨⟨key, hkey⟩, v, hn⟩, others, hrest⟩
    · rintro ⟨⟨⟨key, hkey⟩, v, hn⟩, others, hrest⟩
      exact ⟨_, key, v, others, hkey, hn, hrest, rfl⟩

theorem ofNode_sequence_eq_ok_iff {items : List Node} :
    ofNode line (.sequence items) = .ok v ↔ ∃ vs, ofItems line items = .ok vs ∧ v = .list vs := by
  rw [ofNode]
  cases ofItems line items <;> simp [eq_comm]

theorem ofNode_mapping_eq_ok_iff {entries : List (Node × Node)} :
    ofNode line (.mapping entries) = .ok v ↔
      ∃ fields, ofEntries line entries = .ok fields ∧ v = .record fields.entries := by
  rw [ofNode]
  cases ofEntries line entries <;> simp [eq_comm]

theorem ofNode_integer_eq_ok_iff {i : Int} :
    ofNode line (.integer i) = .ok v ↔ (-(twoTo 63 : Int) ≤ i ∧ i < twoTo 63) ∧ v = .number i := by
  rw [ofNode, ← fitsSigned64_iff]
  split
  · rename_i hfits
    simp [hfits, eq_comm]
  · rename_i hwide
    simp [hwide]

theorem exists_ofNode_sequence_iff {items : List Node} :
    (∃ v, ofNode line (.sequence items) = .ok v) ↔ ∀ n ∈ items, ∃ v, ofNode line n = .ok v := by
  rw [← exists_ofItems_iff]
  simp only [ofNode_sequence_eq_ok_iff]
  exact ⟨fun ⟨_, vs, h, _⟩ => ⟨vs, h⟩, fun ⟨vs, h⟩ => ⟨_, vs, h, rfl⟩⟩

theorem exists_ofNode_mapping_iff {entries : List (Node × Node)} :
    (∃ v, ofNode line (.mapping entries) = .ok v) ↔
      ∀ e ∈ entries, (∃ key, e.1 = .text key) ∧ ∃ v, ofNode line e.2 = .ok v := by
  rw [← exists_ofEntries_iff]
  simp only [ofNode_mapping_eq_ok_iff]
  exact ⟨fun ⟨_, fields, h, _⟩ => ⟨fields, h⟩, fun ⟨fields, h⟩ => ⟨_, fields, h, rfl⟩⟩

theorem exists_ofNode_iff_of_unfit {n : Node} (hunfit : Unfit line n)
    (h : ∀ v, ofNode line n ≠ .ok v) :
    (∃ v, ofNode line n = .ok v) ↔ ∀ part, Part part n → ¬ Unfit line part :=
  ⟨fun ⟨v, hv⟩ => absurd hv (h v), fun hparts => absurd hunfit (hparts n (.self n))⟩

/-- A value becomes one of a header exactly if no part of it is unfit. -/
theorem exists_ofNode_iff {n : Node} :
    (∃ v, ofNode line n = .ok v) ↔ ∀ part, Part part n → ¬ Unfit line part := by
  induction n using induction_on_parts with
  | null => exact exists_ofNode_iff_of_unfit .null (by simp [ofNode])
  | tagged tag n _ => exact exists_ofNode_iff_of_unfit (.tagged tag n) (by simp [ofNode])
  | float x => exact exists_ofNode_iff_of_unfit (.float x) (by simp [ofNode])
  | flag b =>
    refine ⟨fun _ part hpart hunfit => ?_, fun _ => ⟨.flag b, by rw [ofNode]⟩⟩
    cases hpart
    cases hunfit
  | integer i =>
    simp only [ofNode_integer_eq_ok_iff]
    constructor
    · rintro ⟨_, hfits, -⟩ part hpart hunfit
      cases hpart
      cases hunfit with
      | integer hwide => exact hwide hfits
    · intro h
      by_contra hnone
      exact h _ (.self _) (.integer fun hfits => hnone ⟨_, hfits, rfl⟩)
  | text s =>
    simp only [ofNode, exists_ofText_iff]
    constructor
    · intro hread part hpart hunfit
      cases hpart
      cases hunfit with
      | text hstart hnone => exact hread ⟨hstart, hnone⟩
    · exact fun h hbad => h _ (.self _) (.text hbad.1 hbad.2)
  | sequence items ih =>
    rw [exists_ofNode_sequence_iff]
    constructor
    · intro h part hpart hunfit
      cases hpart with
      | self => cases hunfit
      | item hn hpart => exact (ih _ hn).1 (h _ hn) part hpart hunfit
    · exact fun h n hn => (ih n hn).2 fun part hpart => h part (.item hn hpart)
  | mapping entries ih =>
    rw [exists_ofNode_mapping_iff]
    constructor
    · intro h part hpart hunfit
      cases hpart with
      | self =>
        cases hunfit with
        | key he hkey =>
          obtain ⟨⟨key, heq⟩, -⟩ := h _ he
          exact hkey key heq
      | entry he hpart => exact (ih _ he).1 (h _ he).2 part hpart hunfit
    · intro h e he
      refine ⟨?_, (ih e he).2 fun part hpart => h part (.entry he hpart)⟩
      by_contra hnone
      exact h _ (.self _) (.key he fun key heq => hnone ⟨key, heq⟩)

/-! ## What values become -/

/-- What a value becomes. Items keep their number and order, and entries their keys; each stays what
it was converted to. The fields of a record stand in the order of their names. -/
inductive Becomes (line : Nat) : Node → Value → Prop where
  | flag (b : Bool) : Becomes line (.flag b) (.flag b)
  | integer {i : Int} : -(twoTo 63 : Int) ≤ i ∧ i < twoTo 63 → Becomes line (.integer i) (.number i)
  | text {s : String} {v : Value} : TextBecomes line s v → Becomes line (.text s) v
  | sequence {items : List Node} {vs : List Value} :
      items.length = vs.length →
        (∀ i (hn : i < items.length) (hv : i < vs.length), Becomes line items[i] vs[i]) →
          Becomes line (.sequence items) (.list vs)
  | mapping {entries : List (Node × Node)} {fields : List (String × Value)} :
      Ascending fields →
        (∀ e ∈ entries, ∃ key v, e.1 = .text key ∧ (key, v) ∈ fields) →
          (∀ key v, (key, v) ∈ fields → ∃ n, (.text key, n) ∈ entries) →
            (∀ key n v, (.text key, n) ∈ entries → (key, v) ∈ fields → Becomes line n v) →
              Becomes line (.mapping entries) (.record fields)

/-- Each name has the value that its entry was converted to. -/
theorem get?_of_ofEntries {entries : List (Node × Node)} {fields : NameMap Value}
    (hkeys : entries.Pairwise fun a b => b.1.same a.1 = false)
    (h : ofEntries line entries = .ok fields) {key : String} :
    fields.get? key = some v ↔ ∃ n, (.text key, n) ∈ entries ∧ ofNode line n = .ok v := by
  induction entries generalizing fields with
  | nil =>
    rw [ofEntries] at h
    cases h
    simp [NameMap.get?, NameMap.empty, NameMap.find?]
  | cons e rest ih =>
    obtain ⟨hfirst, hrest⟩ := List.pairwise_cons.1 hkeys
    obtain ⟨name, w, others, hname, hw, hothers, rfl⟩ := ofEntries_cons_eq_ok_iff.1 h
    obtain ⟨k, n⟩ := e
    obtain rfl : k = .text name := hname
    rw [NameMap.get?_insert]
    by_cases heq : key = name
    · subst heq
      -- no later entry has the name once more
      have hlater : ∀ n', (Node.text key, n') ∉ rest := fun n' hmem => by
        simpa [same] using hfirst _ hmem
      simp [hlater, hw]
    · simp [heq, ih hrest hothers]

theorem becomes_of_ofNode_mapping {entries : List (Node × Node)} {fields : NameMap Value}
    (hkeys : entries.Pairwise fun a b => b.1.same a.1 = false)
    (ih : ∀ e ∈ entries, ∀ v, ofNode line e.2 = .ok v → Becomes line e.2 v)
    (h : ofEntries line entries = .ok fields) :
    Becomes line (.mapping entries) (.record fields.entries) := by
  have hmem {key : String} {v : Value} : (key, v) ∈ fields.entries ↔ fields.get? key = some v :=
    (NameMap.find?_eq_some_iff fields.ascending key v).symm
  have hget {key : String} {v : Value} : fields.get? key = some v ↔
      ∃ n, (.text key, n) ∈ entries ∧ ofNode line n = .ok v := get?_of_ofEntries hkeys h
  have hconverted := exists_ofEntries_iff.1 ⟨fields, h⟩
  refine .mapping fields.ascending (fun e he => ?_) (fun key v hv => ?_) fun key n v hn hv => ?_
  · obtain ⟨⟨key, hkey⟩, v, hv⟩ := hconverted e he
    refine ⟨key, v, hkey, hmem.2 (hget.2 ⟨e.2, ?_, hv⟩)⟩
    rw [← hkey]
    exact he
  · obtain ⟨n, hn, -⟩ := hget.1 (hmem.1 hv)
    exact ⟨n, hn⟩
  · obtain ⟨w, hw⟩ := (hconverted _ hn).2
    obtain rfl : v = w := Option.some.inj ((hmem.1 hv).symm.trans (hget.2 ⟨n, hn, hw⟩))
    exact ih _ hn v hw

theorem ofNode_mapping_of_becomes {entries : List (Node × Node)} {fields : List (String × Value)}
    (hkeys : entries.Pairwise fun a b => b.1.same a.1 = false)
    (ih : ∀ e ∈ entries, ∀ v, Becomes line e.2 v → ofNode line e.2 = .ok v)
    (h : Becomes line (.mapping entries) (.record fields)) :
    ofNode line (.mapping entries) = .ok (.record fields) := by
  cases h with
  | mapping hascending hfield hentry hvalue =>
    have hconverted {key : String} {n : Node} (hn : (.text key, n) ∈ entries) :
        ∃ v, (key, v) ∈ fields ∧ ofNode line n = .ok v := by
      obtain ⟨key', v, hkey, hv⟩ := hfield _ hn
      cases hkey
      exact ⟨v, hv, ih _ hn v (hvalue key n v hn hv)⟩
    obtain ⟨made, hmade⟩ : ∃ made, ofEntries line entries = .ok made := by
      refine exists_ofEntries_iff.2 fun e he => ?_
      obtain ⟨key, v, hkey, -⟩ := hfield e he
      obtain ⟨k, n⟩ := e
      obtain rfl : k = .text key := hkey
      obtain ⟨v, -, hv⟩ := hconverted he
      exact ⟨⟨key, rfl⟩, v, hv⟩
    have hsame : made = ⟨fields, hascending⟩ := by
      refine NameMap.ext_get? fun key => Option.ext fun v => ?_
      change made.get? key = some v ↔ NameMap.find? key fields = some v
      rw [get?_of_ofEntries hkeys hmade, NameMap.find?_eq_some_iff hascending]
      constructor
      · rintro ⟨n, hn, hv⟩
        obtain ⟨w, hw, hn⟩ := hconverted hn
        obtain rfl : v = w := Except.ok.inj (hv.symm.trans hn)
        exact hw
      · intro hv
        obtain ⟨n, hn⟩ := hentry key v hv
        exact ⟨n, hn, ih _ hn v (hvalue key n v hn hv)⟩
    exact ofNode_mapping_eq_ok_iff.2 ⟨made, hmade, by rw [hsame]⟩

/-- A value becomes what the relation says, and nothing else. -/
theorem ofNode_eq_ok_iff {n : Node} (hkeys : n.distinctKeys = true) :
    ofNode line n = .ok v ↔ Becomes line n v := by
  induction n using induction_on_parts generalizing v with
  | null => simp only [ofNode, reduceCtorEq, false_iff]; nofun
  | tagged tag n _ => simp only [ofNode, reduceCtorEq, false_iff]; nofun
  | float x => simp only [ofNode, reduceCtorEq, false_iff]; nofun
  | flag b =>
    rw [ofNode, Except.ok.injEq]
    constructor
    · rintro rfl
      exact .flag b
    · rintro ⟨⟩
      rfl
  | integer i =>
    rw [ofNode_integer_eq_ok_iff]
    constructor
    · rintro ⟨hfits, rfl⟩
      exact .integer hfits
    · intro h
      cases h with
      | integer hfits => exact ⟨hfits, rfl⟩
  | text s =>
    rw [ofNode, ofText_eq_ok_iff]
    constructor
    · exact .text
    · intro h
      cases h with
      | text hbecomes => exact hbecomes
  | sequence items ih =>
    have hitems := distinctItems_iff.1 hkeys
    rw [ofNode_sequence_eq_ok_iff]
    simp only [ofItems_eq_ok_iff, List.forall₂_iff_get, List.get_eq_getElem]
    constructor
    · rintro ⟨vs, ⟨hlength, hget⟩, rfl⟩
      refine .sequence hlength fun i hn hv => ?_
      exact (ih _ (List.getElem_mem hn) (hitems _ (List.getElem_mem hn))).1 (hget i hn hv)
    · intro h
      cases h with
      | sequence hlength hvalues =>
        refine ⟨_, ⟨hlength, fun i hn hv => ?_⟩, rfl⟩
        exact (ih _ (List.getElem_mem hn) (hitems _ (List.getElem_mem hn))).2 (hvalues i hn hv)
  | mapping entries ih =>
    obtain ⟨hdistinct, hentries⟩ := distinctEntries_iff.1 hkeys
    constructor
    · intro h
      obtain ⟨fields, hfields, rfl⟩ := ofNode_mapping_eq_ok_iff.1 h
      exact becomes_of_ofNode_mapping hdistinct (fun e he v => (ih e he (hentries e he)).1) hfields
    · intro h
      have hrecord := h
      cases h
      exact ofNode_mapping_of_becomes hdistinct (fun e he v => (ih e he (hentries e he)).2) hrecord

/-- Conversion is exact and keeps the structure. It succeeds unless a part is unfit, wherever it
stands; and where no mapping has a key twice, as in all that is read from a text, its result is what
the relation says. -/
theorem conversion_is_exact (line : Nat) (n : Node) :
    ((∃ v, ofNode line n = .ok v) ↔ ∀ part, Part part n → ¬ Unfit line part) ∧
      (n.distinctKeys = true → ∀ v, ofNode line n = .ok v ↔ Becomes line n v) ∧
      ∀ text, Yaml.read text = .ok n → n.distinctKeys = true :=
  ⟨exists_ofNode_iff, fun hkeys _ => ofNode_eq_ok_iff hkeys, fun _ => Yaml.distinctKeys_of_read⟩

/-- Texts of several kinds below keys that are not in order, one of which begins like a pattern. -/
def mixedNode : Node :=
  .mapping [(.text "b", .sequence [.text " 2024-02-29 ", .text "2023-02-29", .integer (-1)]),
    (.text "/a", .mapping [(.text "k", .text " /x/ \x7b sort \x7d "), (.text "j", .text " x ")])]

theorem conversion_is_exact_mixed :
    mixedNode.distinctKeys = true ∧
      (∃ a, Becomes 3 mixedNode (.record
        [("/a", .record [("j", .text " x "), ("k", .action a)]),
          ("b", .list [.date "2024-02-29", .text "2023-02-29", .number (-1)])])) ∧
      (∀ part, Part part mixedNode → ¬ Unfit 3 part) ∧
      ¬ ∀ part, Part part (.sequence [mixedNode, .integer (twoTo 63)]) → ¬ Unfit 3 part := by
  have hkeys : mixedNode.distinctKeys = true := by decide +kernel
  have hslash : ['/'] <+: trim " /x/ \x7b sort \x7d ".toList := by decide
  have hsome : (Expression.ofText (trimmed " /x/ \x7b sort \x7d ") 3).isOk = true := by
    decide +kernel
  obtain ⟨hfit, hbecomes, -⟩ := conversion_is_exact 3 mixedNode
  obtain ⟨v, hexpression⟩ :
      ∃ v, Expression.ofText (trimmed " /x/ \x7b sort \x7d ") 3 = .ok v := by
    cases hread : Expression.ofText (trimmed " /x/ \x7b sort \x7d ") 3 with
    | error e => rw [hread] at hsome; cases hsome
    | ok v => exact ⟨v, rfl⟩
  obtain ⟨a, rfl⟩ :=
    Expression.exists_action_of_slash (by rw [toList_trimmed]; exact hslash) hexpression
  have haction := (ofText_of_expression (.inl hslash)).2 hexpression
  have hread : ofNode 3 mixedNode = .ok (.record
      [("/a", .record [("j", .text " x "), ("k", .action a)]),
        ("b", .list [.date "2024-02-29", .text "2023-02-29", .number (-1)])]) := by
    simp only [mixedNode, ofNode, ofEntries, ofItems, keyText, haction]
    rfl
  refine ⟨hkeys, ⟨a, (hbecomes hkeys _).1 hread⟩, hfit.1 ⟨_, hread⟩,
    mt (conversion_is_exact 3 _).1.2 fun hwide => ?_⟩
  obtain ⟨w, hw⟩ := exists_ofNode_sequence_iff.1 hwide (.integer (twoTo 63)) (by simp)
  exact absurd (ofNode_integer_eq_ok_iff.1 hw).1.2 (by decide)

end Value

end PromptScript
