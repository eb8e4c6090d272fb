import GrowthGauge.Json.Printer
import GrowthGauge.Json.Reader
import Mathlib.Data.List.Nodup

namespace GrowthGauge

namespace Json

/-! ## Written strings

A string is written with escapes where the reader asks for them, so it is read back as
it was. -/

theorem readUnit_append {digits : Text} {code : Nat} (read : readUnit digits = some (code, []))
    (rest : Text) : readUnit (digits ++ rest) = some (code, rest) := by
  match digits with
  | [] | [_] | [_, _] | [_, _, _] => cases read
  | first :: second :: third :: fourth :: more =>
      simp only [readUnit, Option.bind_eq_bind, Option.bind_eq_some_iff, Option.some.injEq,
        Prod.mk.injEq, List.cons_append] at read ⊢
      rcases read with ⟨a, isFirst, b, isSecond, c, isThird, d, isFourth, total, none⟩
      exact ⟨a, isFirst, b, isSecond, c, isThird, d, isFourth, total, by rw [none]; rfl⟩

theorem readUnit_lowerHex :
    ∀ control : Fin 0x20, readUnit (lowerHex 4 control) = some (control.val, []) := by
  decide +kernel

theorem readEscape_lowerHex {code : Nat} (control : code < 0x20) (rest : Text) :
    readEscape ('u' :: (lowerHex 4 code ++ rest)) = some (code, rest) := by
  have unit := readUnit_append (readUnit_lowerHex ⟨code, control⟩) rest
  have single : CodeUnit.isLeading code = false := by
    simp only [CodeUnit.isLeading, Bool.and_eq_false_imp, decide_eq_true_eq,
      decide_eq_false_iff_not]
    omega
  rw [readEscape, readUnicodeEscape, unit]
  simp only [Option.bind_eq_bind, Option.bind_some, single, Bool.false_eq_true, if_false]

theorem readString_escape {text behind : Text} {code : Nat}
    (escape : readEscape text = some (code, behind)) (steps : Nat) (read : List Nat) :
    readString (steps + 1) read ('\\' :: text) = readString steps (code :: read) behind := by
  rw [readString, if_neg (by decide), if_pos (by decide), escape]

/-- Each character takes one step to read, however it is written. -/
theorem readString_escapedChar (character : Char) (steps : Nat) (read : List Nat) (rest : Text) :
    readString (steps + 1) read (escapedChar character ++ rest) =
      readString steps (character.toNat :: read) rest := by
  unfold escapedChar
  split
  · next marked =>
      rw [Bool.or_eq_true, beq_iff_eq, beq_iff_eq] at marked
      rcases marked with rfl | rfl <;> exact readString_escape rfl steps read
  · next unmarked =>
      simp only [Bool.or_eq_true, not_or] at unmarked
      -- The characters that have an escape of their own.
      iterate 5
        split
        · next same => exact eq_of_beq same ▸ readString_escape rfl steps read
      split
      · next control => exact readString_escape (readEscape_lowerHex control rest) steps read
      · next printed =>
          rw [List.singleton_append, readString, if_neg unmarked.1, if_neg unmarked.2,
            if_neg printed]

theorem readString_written (value : Text) {steps : Nat} (enough : value.length < steps)
    (read : List Nat) (rest : Text) :
    readString steps read (value.flatMap escapedChar ++ '"' :: rest) =
      some (read.reverse ++ value.map Char.toNat, rest) := by
  induction value generalizing steps read with
  | nil =>
      rcases Nat.exists_eq_succ_of_ne_zero (Nat.ne_of_gt enough) with ⟨more, rfl⟩
      rw [List.map_nil, List.append_nil]
      rfl
  | cons character tail induction =>
      rcases Nat.exists_eq_succ_of_ne_zero (Nat.ne_zero_of_lt enough) with ⟨more, rfl⟩
      rw [List.flatMap_cons, List.append_assoc, readString_escapedChar,
        induction (Nat.lt_of_succ_lt_succ enough), List.reverse_cons, List.append_assoc]
      rfl

theorem isSurrogate_toNat (character : Char) : CodeUnit.isSurrogate character.toNat = false := by
  have valid : character.toNat < 0xD800 ∨ 0xDFFF < character.toNat ∧ character.toNat < 0x110000 :=
    character.valid
  simp only [CodeUnit.isSurrogate, CodeUnit.isLeading, CodeUnit.isTrailing, Bool.or_eq_false_iff,
    Bool.and_eq_false_imp, decide_eq_true_eq, decide_eq_false_iff_not]
  omega

theorem char_toNat (character : Char) : CodeUnit.char character.toNat = character := by
  rw [CodeUnit.char, isSurrogate_toNat, if_neg Bool.false_ne_true, Char.ofNat_toNat]

theorem map_char_toNat (value : Text) : (value.map Char.toNat).map CodeUnit.char = value := by
  rw [List.map_map]
  exact List.map_id'' char_toNat value

theorem ofCodes_map_toNat (value : Text) :
    ofCodes (value.map Char.toNat) = .string (String.ofList value) := by
  have paired : (value.map Char.toNat).any CodeUnit.isSurrogate = false := by
    rw [List.any_map, List.any_eq_false]
    intro character _
    exact ne_true_of_eq_false (isSurrogate_toNat character)
  rw [ofCodes, paired, if_neg Bool.false_ne_true, map_char_toNat]

theorem length_le_length_escaped (value : Text) :
    value.length ≤ (value.flatMap escapedChar).length := by
  induction value with
  | nil => exact Nat.le_refl 0
  | cons character tail induction =>
      have written : 1 ≤ (escapedChar character).length := by
        unfold escapedChar
        (repeat' split) <;> exact Nat.succ_le_succ (Nat.zero_le _)
      rw [List.flatMap_cons, List.length_append, List.length_cons]
      omega

/-! ## Written values

A value whose parts are read back is read back itself, where one more level of nesting
is allowed. What stands behind it is left alone, which is why numbers are not among
these values: more digits would belong to them. -/

/-- The written value begins like an item, and is read whatever stands behind it, where
so many levels of nesting are allowed. -/
structure ReadsBack (depth : Nat) (value : Json) : Prop where
  opens : ∃ first rest, write value = first :: rest ∧ isSpace first = false ∧ first ≠ ']'
  reads : ∀ steps rest, 2 * (write value).length < steps →
    readValue steps depth (write value ++ rest) = .ok (value, rest)

theorem skipSpaces_cons {first : Char} (inked : isSpace first = false) (rest : Text) :
    skipSpaces (first :: rest) = first :: rest :=
  List.dropWhile_cons_of_neg (by rw [inked]; exact Bool.false_ne_true)

theorem ReadsBack.skipSpaces_write {depth : Nat} {value : Json} (back : ReadsBack depth value)
    (rest : Text) : skipSpaces (write value ++ rest) = write value ++ rest := by
  rcases back.opens with ⟨first, more, written, inked, _⟩
  rw [written, List.cons_append, skipSpaces_cons inked]

theorem writeString_append (value : String) (rest : Text) :
    writeString value ++ rest = '"' :: (value.toList.flatMap escapedChar ++ '"' :: rest) := by
  rw [writeString, List.cons_append, List.cons_append, List.append_assoc]
  rfl

theorem length_lt_length_writeString (value : String) :
    value.toList.length + 1 < (writeString value).length := by
  have escaped := length_le_length_escaped value.toList
  rw [writeString, List.length_append, List.length_cons, List.length_singleton]
  omega

theorem readsBack_string (depth : Nat) (value : String) : ReadsBack depth (.string value) where
  opens := ⟨'"', _, by rw [write, writeString, List.cons_append], rfl, by decide⟩
  reads := by
    intro steps rest enough
    rcases Nat.exists_eq_succ_of_ne_zero (Nat.ne_zero_of_lt enough) with ⟨more, rfl⟩
    rw [write] at enough ⊢
    have room := length_lt_length_writeString value
    have read := readString_written value.toList (by omega : value.toList.length < more) [] rest
    rw [writeString_append, readValue, read]
    simp only [List.reverse_nil, List.nil_append, ofCodes_map_toNat, String.ofList_toList]

theorem writeItems_cons_cons (item second : Json) (rest : List Json) :
    writeItems (item :: second :: rest) = write item ++ ',' :: writeItems (second :: rest) := by
  rw [writeItems]
  exact List.cons_ne_nil second rest

theorem writeItems_opens {depth : Nat} {items : List Json} (nonempty : items ≠ [])
    (back : ∀ item ∈ items, ReadsBack depth item) :
    ∃ first rest, writeItems items = first :: rest ∧ isSpace first = false ∧ first ≠ ']' := by
  cases items with
  | nil => exact absurd rfl nonempty
  | cons item others =>
      rcases (back item List.mem_cons_self).opens with ⟨first, rest, written, inked, notClosing⟩
      cases others with
      | nil => exact ⟨first, rest, by rw [writeItems, written], inked, notClosing⟩
      | cons second others =>
          refine ⟨first, rest ++ ',' :: writeItems (second :: others), ?_, inked, notClosing⟩
          rw [writeItems_cons_cons, written, List.cons_append]

theorem readItems_written {depth : Nat} {items : List Json} (nonempty : items ≠ [])
    (back : ∀ item ∈ items, ReadsBack depth item) {steps : Nat}
    (enough : 2 * (writeItems items).length + 1 < steps) (read : List Json) (rest : Text) :
    readItems steps depth read (writeItems items ++ ']' :: rest) =
      .ok (.array (read.reverse ++ items), rest) := by
  induction items generalizing steps read with
  | nil => exact absurd rfl nonempty
  | cons item others induction =>
      rcases Nat.exists_eq_succ_of_ne_zero (Nat.ne_zero_of_lt enough) with ⟨more, rfl⟩
      rcases List.forall_mem_cons.mp back with ⟨itemBack, othersBack⟩
      cases others with
      | nil =>
          rw [writeItems] at enough ⊢
          rw [readItems, itemBack.reads more _ (by omega)]
          simp only [skipSpaces_cons (show isSpace ']' = false from rfl), List.reverse_cons]
      | cons second others =>
          rw [writeItems_cons_cons, List.length_append, List.length_cons] at enough
          rcases writeItems_opens (List.cons_ne_nil second others) othersBack with
            ⟨first, tail, written, inked, _⟩
          rw [writeItems_cons_cons, List.append_assoc, readItems, itemBack.reads more _ (by omega)]
          simp only [List.cons_append, skipSpaces_cons (show isSpace ',' = false from rfl)]
          rw [written, List.cons_append, skipSpaces_cons inked, ← List.cons_append, ← written,
            induction (List.cons_ne_nil second others) othersBack (by omega), List.reverse_cons,
            List.append_assoc]
          rfl

theorem readsBack_array {depth : Nat} {items : List Json}
    (back : ∀ item ∈ items, ReadsBack depth item) : ReadsBack (depth + 1) (.array items) where
  opens := ⟨'[', _, by rw [write, List.cons_append], rfl, by decide⟩
  reads := by
    intro steps rest enough
    rcases Nat.exists_eq_succ_of_ne_zero (Nat.ne_zero_of_lt enough) with ⟨more, rfl⟩
    rw [write, List.cons_append, List.length_cons, List.length_append,
      List.length_singleton] at enough
    rw [write, List.cons_append, List.cons_append, List.append_assoc, List.singleton_append,
      readValue]
    cases items with
    | nil =>
        rw [writeItems]
        rfl
    | cons item others =>
        have nonempty := List.cons_ne_nil item others
        have read := readItems_written nonempty back
          (by omega : 2 * (writeItems (item :: others)).length + 1 < more) [] rest
        rcases writeItems_opens nonempty back with ⟨first, tail, written, inked, notClosing⟩
        rw [written, List.cons_append] at read ⊢
        rw [skipSpaces_cons inked]
        split
        · next closes =>
            cases closes
            exact absurd rfl notClosing
        · exact read

theorem writeMembers_cons_cons (key : String) (value : Json) (second : String × Json)
    (rest : List (String × Json)) :
    writeMembers ((key, value) :: second :: rest) =
      writeString key ++ ':' :: write value ++ ',' :: writeMembers (second :: rest) := by
  rw [writeMembers]
  exact List.cons_ne_nil second rest

theorem writeMembers_opens {members : List (String × Json)} (nonempty : members ≠ []) :
    ∃ rest, writeMembers members = '"' :: rest := by
  cases members with
  | nil => exact absurd rfl nonempty
  | cons member others =>
      rcases member with ⟨key, value⟩
      cases others with
      | nil => exact ⟨_, by rw [writeMembers, writeString_append]⟩
      | cons second others =>
          exact ⟨_, by rw [writeMembers_cons_cons, List.append_assoc, writeString_append]⟩

theorem setMember_of_not_mem {members : List (String × Json)} {key : String}
    (fresh : key ∉ members.map Prod.fst) (value : Json) :
    setMember members key value = members ++ [(key, value)] := by
  have absent : members.any (·.1 == key) = false := by
    rw [List.any_eq_false]
    intro member isMember same
    exact fresh (List.mem_map.mpr ⟨member, isMember, eq_of_beq same⟩)
  rw [setMember, absent, if_neg Bool.false_ne_true]

/-- One member, and then the end of the object or a comma and more members. -/
theorem readMembers_member {depth : Nat} {value : Json} (back : ReadsBack depth value)
    {key : String} {more : Nat}
    (enough : 2 * ((writeString key).length + (write value).length) < more)
    {read : List (String × Json)} (fresh : key ∉ read.map Prod.fst) {mark : Char}
    (inked : isSpace mark = false) (rest : Text) :
    readMembers (more + 1) depth read (writeString key ++ ':' :: (write value ++ mark :: rest)) =
      match mark :: rest with
      | ',' :: rest => readMembers more depth (read ++ [(key, value)]) (skipSpaces rest)
      | '}' :: rest => .ok (.object (read ++ [(key, value)]), rest)
      | _ => .error .malformed := by
  have room := length_lt_length_writeString key
  have readKey := readString_written key.toList (by omega : key.toList.length < more) []
    (':' :: (write value ++ mark :: rest))
  have sameKey : keyOfCodes (key.toList.map Char.toNat) = key := by
    rw [keyOfCodes, map_char_toNat, String.ofList_toList]
  rw [writeString_append, readMembers, readKey]
  simp only [skipSpaces_cons (show isSpace ':' = false from rfl), back.skipSpaces_write,
    back.reads more _ (by omega : 2 * (write value).length < more), List.reverse_nil,
    List.nil_append, sameKey, setMember_of_not_mem fresh, skipSpaces_cons inked]
  rfl

theorem readMembers_written {depth : Nat} {members : List (String × Json)}
    (nonempty : members ≠ []) (back : ∀ member ∈ members, ReadsBack depth member.2) {steps : Nat}
    (enough : 2 * (writeMembers members).length + 1 < steps) (read : List (String × Json))
    (distinct : ((read ++ members).map Prod.fst).Nodup) (rest : Text) :
    readMembers steps depth read (writeMembers members ++ '}' :: rest) =
      .ok (.object (read ++ members), rest) := by
  induction members generalizing steps read with
  | nil => exact absurd rfl nonempty
  | cons member others induction =>
      rcases Nat.exists_eq_succ_of_ne_zero (Nat.ne_zero_of_lt enough) with ⟨more, rfl⟩
      rcases List.forall_mem_cons.mp back with ⟨memberBack, othersBack⟩
      rcases member with ⟨key, value⟩
      have valueBack : ReadsBack depth value := memberBack
      have fresh : key ∉ read.map Prod.fst := by
        rw [List.map_append, List.map_cons] at distinct
        exact fun member => List.disjoint_of_nodup_append distinct member List.mem_cons_self
      cases others with
      | nil =>
          rw [writeMembers, List.length_append, List.length_cons] at enough
          rw [writeMembers, List.append_assoc, List.cons_append,
            readMembers_member valueBack (by omega) fresh rfl]
          rfl
      | cons second others =>
          rw [writeMembers_cons_cons, List.length_append, List.length_append, List.length_cons,
            List.length_cons] at enough
          have opens : skipSpaces (writeMembers (second :: others) ++ '}' :: rest) =
              writeMembers (second :: others) ++ '}' :: rest := by
            rcases writeMembers_opens (List.cons_ne_nil second others) with ⟨tail, written⟩
            rw [written, List.cons_append, skipSpaces_cons rfl]
          rw [List.append_cons] at distinct
          rw [writeMembers_cons_cons, List.append_assoc, List.append_assoc, List.cons_append,
            List.cons_append, readMembers_member valueBack (by omega) fresh rfl]
          simp only [opens]
          rw [induction (List.cons_ne_nil second others) othersBack (by omega) _ distinct,
            List.append_assoc]
          rfl

theorem readsBack_object {depth : Nat} {members : List (String × Json)}
    (back : ∀ member ∈ members, ReadsBack depth member.2)
    (distinct : (members.map Prod.fst).Nodup) : ReadsBack (depth + 1) (.object members) where
  opens := ⟨'{', _, by rw [write, List.cons_append], rfl, by decide⟩
  reads := by
    intro steps rest enough
    rcases Nat.exists_eq_succ_of_ne_zero (Nat.ne_zero_of_lt enough) with ⟨more, rfl⟩
    rw [write, List.cons_append, List.length_cons, List.length_append,
      List.length_singleton] at enough
    rw [write, List.cons_append, List.cons_append, List.append_assoc, List.singleton_append,
      readValue]
    cases members with
    | nil =>
        rw [writeMembers]
        rfl
    | cons member others =>
        have nonempty := List.cons_ne_nil member others
        have read := readMembers_written nonempty back
          (by omega : 2 * (writeMembers (member :: others)).length + 1 < more) [] distinct rest
        rcases writeMembers_opens nonempty with ⟨tail, written⟩
        rw [written, List.cons_append] at read ⊢
        exact read

/-- A whole text is read back where the nesting stays within the limit. -/
theorem ofText_write {value : Json} (back : ReadsBack ReadError.depthLimit value) :
    ofText (write value) = .ok value := by
  have read := back.reads (2 * (write value).length + 1) [] (Nat.lt_succ_self _)
  have opens := back.skipSpaces_write []
  rw [List.append_nil] at read opens
  rw [ofText, opens, read]
  rfl

end Json

/-! ## Written bodies

A body that begins like an object with members is taken for UTF-8, so it is read as the
text that it is. -/

namespace TextEncoding

theorem toList_loop (bytes : ByteArray) (index : Nat) (read : List UInt8) :
    ByteArray.toList.loop bytes index read = read.reverse ++ bytes.data.toList.drop index := by
  induction index, read using ByteArray.toList.loop.induct bytes with
  | case1 index read inside induction =>
      have within : index < bytes.data.toList.length := inside
      have here : bytes.get! index = bytes.data.toList[index] :=
        getElem!_pos bytes.data index within
      rw [ByteArray.toList.loop.eq_def, if_pos inside, induction, List.reverse_cons,
        List.append_assoc, here, List.singleton_append, ← List.drop_eq_getElem_cons]
  | case2 index read outside =>
      have past : bytes.data.toList.length ≤ index := Nat.le_of_not_lt outside
      rw [ByteArray.toList.loop.eq_def, if_neg outside, List.drop_eq_nil_of_le past,
        List.append_nil]

/-- The bytes of a text are those of its characters. -/
theorem toList_toUTF8 (text : Text) :
    (String.ofList text).toUTF8.toList = text.flatMap String.utf8EncodeChar := by
  have whole := toList_loop (String.ofList text).toUTF8 0 []
  rw [List.reverse_nil, List.nil_append, List.drop_zero] at whole
  rw [ByteArray.toList, whole]
  exact List.toList_data_toByteArray

theorem decode?_members (rest : Text) :
    decode? ('{' :: '"' :: rest) = some ('{' :: '"' :: rest) := by
  have bytes : (String.ofList ('{' :: '"' :: rest)).toUTF8.toList =
      0x7B :: 0x22 :: rest.flatMap String.utf8EncodeChar :=
    toList_toUTF8 _
  have narrow : ∀ more, ofBytes (0x7B :: 0x22 :: more) = .narrow
    | [] | [_] | _ :: _ :: _ => rfl
  rw [decode?, bytes, narrow]
  rfl

end TextEncoding

namespace Json

theorem ofBody_write {key : String} {value : Json} {rest : List (String × Json)}
    (back : ReadsBack ReadError.depthLimit (.object ((key, value) :: rest))) :
    ofBody (write (.object ((key, value) :: rest))) = .ok (.object ((key, value) :: rest)) := by
  rcases writeMembers_opens (List.cons_ne_nil (key, value) rest) with ⟨behind, written⟩
  have decoded : TextEncoding.decode? (write (.object ((key, value) :: rest))) =
      some (write (.object ((key, value) :: rest))) := by
    rw [write, written]
    exact TextEncoding.decode?_members (behind ++ ['}'])
  rw [ofBody, decoded]
  exact ofText_write back

end Json

end GrowthGauge
