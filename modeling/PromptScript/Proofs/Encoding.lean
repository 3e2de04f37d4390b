import Mathlib.Data.List.Basic
import PromptScript.Text.Fields
import PromptScript.Text.Utf8

/-!
# Proofs.Encoding

Texts are read back from their bytes, whether strictly or with marks (`text?_textBytes`,
`shown_textBytes`). The bytes of a text that are cut at an ASCII character are those of two texts
(`isText_of_append_cons`), because no byte of another character is in ASCII.
-/

namespace PromptScript

theorem utf8_cons (c : Char) (cs : List Char) :
    utf8 (c :: cs) = String.utf8EncodeChar c ++ utf8 cs :=
  List.flatMap_cons

theorem utf8_append (cs ds : List Char) : utf8 (cs ++ ds) = utf8 cs ++ utf8 ds :=
  List.flatMap_append

namespace Utf8

/-! ## Reading back -/

theorem firstChar?_append (c : Char) (rest : Bytes) :
    firstChar? (String.utf8EncodeChar c ++ rest) = some c := by
  have hlength : (String.utf8EncodeChar c).length ≤ 4 := by
    rw [String.length_utf8EncodeChar]
    exact Char.utf8Size_le_four c
  rw [firstChar?, List.take_append, List.take_of_length_le hlength, List.toByteArray_append]
  exact ByteArray.utf8DecodeChar?_utf8EncodeChar_append

theorem decodeAfter_eq (skip : Nat) (bs : Bytes) :
    decodeAfter skip bs = decode (bs.drop skip) := by
  induction bs generalizing skip with
  | nil => simp [decode, decodeAfter]
  | cons b rest ih =>
    cases skip with
    | zero => rfl
    | succ skip => simp [decodeAfter, ih]

theorem decode_append (c : Char) (rest : Bytes) :
    decode (String.utf8EncodeChar c ++ rest) = some c :: decode rest := by
  have hfirst := firstChar?_append c rest
  have hlength := String.length_utf8EncodeChar c
  cases hc : String.utf8EncodeChar c with
  | nil => exact absurd hc String.utf8EncodeChar_ne_nil
  | cons b bs =>
    rw [hc] at hfirst hlength
    rw [List.cons_append] at hfirst ⊢
    rw [decode, decodeAfter, hfirst]
    dsimp only
    rw [decodeAfter_eq, ← hlength, List.length_cons, Nat.add_sub_cancel, List.drop_left]

theorem decode_utf8 (cs : List Char) : decode (utf8 cs) = cs.map some := by
  induction cs with
  | nil => rfl
  | cons c cs ih => rw [utf8_cons, decode_append, ih, List.map_cons]

/-- Bytes of a text are read as the text. -/
theorem text?_textBytes (text : String) : text? (textBytes text) = some text := by
  have hchars : (text.toList.map some).mapM id = some text.toList := by
    induction text.toList with
    | nil => rfl
    | cons c cs ih => simp [ih]
  rw [text?, textBytes, decode_utf8, hchars, Option.map_some, String.ofList_toList]

/-- Bytes of a text are shown without a mark. -/
theorem shown_textBytes (text : String) : shown (textBytes text) = text := by
  have hchars : (text.toList.map some).map (fun c => c.getD '\uFFFD') = text.toList := by
    rw [List.map_map]
    exact List.map_id _
  rw [shown, textBytes, decode_utf8, hchars, String.ofList_toList]

end Utf8

theorem textBytes_inj {s t : String} : textBytes s = textBytes t ↔ s = t := by
  constructor
  · intro h
    rw [← Utf8.shown_textBytes s, h, Utf8.shown_textBytes]
  · exact congrArg textBytes

theorem textBytes_append (s t : String) : textBytes (s ++ t) = textBytes s ++ textBytes t := by
  rw [textBytes, String.toList_append, utf8_append, textBytes, textBytes]

/-! ## Bytes of texts -/

/-- The bytes are those of a text. -/
def IsText (bs : Bytes) : Prop := ∃ text, textBytes text = bs

theorem isText_textBytes (text : String) : IsText (textBytes text) := ⟨text, rfl⟩

theorem isText_iff {bs : Bytes} : IsText bs ↔ textBytes (Utf8.shown bs) = bs := by
  constructor
  · rintro ⟨text, rfl⟩
    rw [Utf8.shown_textBytes]
  · exact fun h => ⟨_, h⟩

instance (bs : Bytes) : Decidable (IsText bs) := decidable_of_iff _ isText_iff.symm

theorem IsText.text?_eq {bs : Bytes} (h : IsText bs) :
    Utf8.text? bs = some (Utf8.shown bs) := by
  obtain ⟨text, rfl⟩ := h
  rw [Utf8.text?_textBytes, Utf8.shown_textBytes]

theorem map_textBytes_shown {names : List Bytes} (h : ∀ name ∈ names, IsText name) :
    (names.map Utf8.shown).map textBytes = names := by
  rw [List.map_map]
  exact (List.map_congr_left fun name hname => isText_iff.1 (h name hname)).trans (List.map_id _)

theorem isText_nil : IsText [] := ⟨"", rfl⟩

theorem IsText.append {bs cs : Bytes} (hbs : IsText bs) (hcs : IsText cs) :
    IsText (bs ++ cs) := by
  obtain ⟨s, rfl⟩ := hbs
  obtain ⟨t, rfl⟩ := hcs
  exact ⟨s ++ t, textBytes_append s t⟩

/-- A byte in ASCII is the whole of the character that it belongs to. -/
theorem utf8EncodeChar_eq_of_mem {c : Char} {b : UInt8} (hb : b < 128)
    (h : b ∈ String.utf8EncodeChar c) : String.utf8EncodeChar c = [b] := by
  have hlarge : ∀ n : Nat, 128 ≤ n % 256 → b ≠ UInt8.ofNat n := by
    rintro n hn rfl
    rw [UInt8.lt_iff_toNat_lt, UInt8.toNat_ofNat'] at hb
    exact Nat.not_lt.2 hn hb
  simp only [String.utf8EncodeChar] at h ⊢
  split at h
  · rename_i hascii
    rw [if_pos hascii, List.mem_singleton.1 h]
  · -- every byte of a longer character is beyond ASCII
    exfalso
    split at h
    · simp only [List.mem_cons, List.not_mem_nil, or_false] at h
      rcases h with h | h <;> exact hlarge _ (by omega) h
    · split at h
      · simp only [List.mem_cons, List.not_mem_nil, or_false] at h
        rcases h with h | h | h <;> exact hlarge _ (by omega) h
      · simp only [List.mem_cons, List.not_mem_nil, or_false] at h
        rcases h with h | h | h | h <;> exact hlarge _ (by omega) h

/-- The bytes of a text that are cut at a character of ASCII are those of two texts. -/
theorem isText_of_append_cons {b : UInt8} (hb : b < 128) {before after : Bytes}
    (h : IsText (before ++ b :: after)) : IsText before ∧ IsText after := by
  obtain ⟨text, htext⟩ := h
  rw [textBytes] at htext
  generalize text.toList = cs at htext
  induction cs generalizing before with
  | nil => exact absurd htext.symm (by simp [utf8])
  | cons c cs ih =>
    have hcs : IsText (utf8 cs) := ⟨String.ofList cs, by rw [textBytes, String.toList_ofList]⟩
    have hc : IsText (String.utf8EncodeChar c) :=
      ⟨String.singleton c, by simp [textBytes, utf8]⟩
    rw [utf8_cons] at htext
    rcases List.append_eq_append_iff.1 htext with ⟨more, rfl, hmore⟩ | ⟨more, hsplit, hmore⟩
    · obtain ⟨hbefore, hafter⟩ := ih hmore
      exact ⟨hc.append hbefore, hafter⟩
    · cases more with
      | nil =>
        rw [List.append_nil] at hsplit
        have hrest : utf8 cs = [] ++ b :: after := hmore.symm
        rw [← hsplit]
        exact ⟨hc, (ih hrest).2⟩
      | cons b' more =>
        -- the character holds the byte, so it is nothing else
        obtain ⟨rfl, rfl⟩ := List.cons.inj hmore
        have hsingle := utf8EncodeChar_eq_of_mem (c := c) hb (by simp [hsplit])
        rw [hsingle] at hsplit
        obtain ⟨rfl, rfl⟩ : before = [] ∧ more = [] := by
          cases before with
          | nil => simpa [eq_comm] using hsplit
          | cons _ _ => simp at hsplit
        exact ⟨isText_nil, hcs⟩

/-- The pieces between such characters are the bytes of texts. -/
theorem isText_of_joinFields {b : UInt8} (hb : b < 128) {pieces : List Bytes}
    (h : IsText (joinFields [b] pieces)) : ∀ piece ∈ pieces, IsText piece := by
  induction pieces with
  | nil => exact fun _ hpiece => absurd hpiece List.not_mem_nil
  | cons piece rest ih =>
    cases rest with
    | nil => exact List.forall_mem_singleton.2 h
    | cons next rest =>
      rw [joinFields_cons_cons, List.append_assoc, List.singleton_append] at h
      obtain ⟨hpiece, hrest⟩ := isText_of_append_cons hb h
      exact List.forall_mem_cons.2 ⟨hpiece, ih hrest⟩

theorem isText_of_mem_fields {b : UInt8} (hb : b < 128) {bs piece : Bytes} (h : IsText bs)
    (hpiece : piece ∈ fields b bs) : IsText piece :=
  isText_of_joinFields hb (by rwa [joinFields_fields]) piece hpiece

/-- Joined texts have the joined bytes. -/
theorem utf8_joinFields (sep : List Char) (pieces : List (List Char)) :
    utf8 (joinFields sep pieces) = joinFields (utf8 sep) (pieces.map utf8) := by
  induction pieces with
  | nil => rfl
  | cons piece rest ih =>
    cases rest with
    | nil => rfl
    | cons next rest =>
      rw [joinFields_cons_cons, utf8_append, utf8_append, ih]
      rfl

theorem textBytes_joinTexts (sep : String) (texts : List String) :
    textBytes (joinTexts sep texts) = joinFields (textBytes sep) (texts.map textBytes) := by
  rw [textBytes, joinTexts, String.toList_ofList, utf8_joinFields, List.map_map]
  rfl

section Fields

variable {c : Char} {b : UInt8} (hc : String.utf8EncodeChar c = [b]) (hb : b < 128)

include hc hb

theorem notMem_utf8 {cs : List Char} (h : c ∉ cs) : b ∉ utf8 cs := by
  intro hmem
  obtain ⟨d, hd, hbyte⟩ := List.mem_flatMap.1 hmem
  have hchars : utf8 [d] = utf8 [c] := by
    rw [utf8_cons, utf8_cons, utf8EncodeChar_eq_of_mem hb hbyte, hc]
  have hsame : String.ofList [d] = String.ofList [c] := by
    rw [← textBytes_inj, textBytes, textBytes, String.toList_ofList, String.toList_ofList, hchars]
  obtain rfl : d = c := by simpa using congrArg String.toList hsame
  exact h hd

/-- Cutting a text at a character of ASCII cuts its bytes. -/
theorem fields_utf8 (cs : List Char) : fields b (utf8 cs) = (fields c cs).map utf8 := by
  have hsep : utf8 [c] = [b] := by rw [utf8_cons, hc]; rfl
  have hjoined : utf8 cs = joinFields [b] ((fields c cs).map utf8) := by
    rw [← hsep, ← utf8_joinFields, joinFields_fields]
  rw [hjoined]
  refine fields_joinFields (by simpa using fields_ne_nil c cs) fun piece hpiece => ?_
  obtain ⟨part, hpart, rfl⟩ := List.mem_map.1 hpiece
  exact notMem_utf8 hc hb (notMem_of_mem_fields hpart)

end Fields

end PromptScript
