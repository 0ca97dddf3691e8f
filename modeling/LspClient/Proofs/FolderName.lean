import LspClient.Initialize
import LspClient.Proofs.PathComponents
import LspClient.Proofs.Utf8Pieces

/-!
# The name of the workspace folder

The folder goes by the last segment of its URI, with its escapes left in. So the name always spells the last component
of the path, and it reads like it exactly where nothing had to be escaped: each escape makes the name longer than the
component is, and no text has more characters than bytes.
-/

namespace LspClient.FileUri

/-- The bytes that a segment stands for: a percent sign and two hexadecimal digits are one byte. -/
def unescape? : List Char → Option Bytes
  | [] => some []
  | c :: rest =>
    if c = '%' then
      match rest with
      | high :: low :: rest =>
        match Hex.value? high, Hex.value? low, unescape? rest with
        | some h, some l, some bytes => some ((16 * h + l).toUInt8 :: bytes)
        | _, _, _ => none
      | _ => none
    else (unescape? rest).map (c.toNat.toUInt8 :: ·)

theorem digit_ne_slash {n : Nat} (h : n < 16) : Hex.digit true n ≠ '/' := by
  intro heq
  have hvalue := Hex.value?_digit true h
  rw [heq] at hvalue
  cases hvalue

theorem isPlain_bounds {b : UInt8} (h : isPlain b = true) :
    0x20 < b.toNat ∧ b.toNat < 0x7F ∧ b.toNat ≠ 0x25 := by
  simp only [isPlain, Bool.and_eq_true, decide_eq_true_eq] at h
  refine ⟨h.1.1, h.1.2, fun hb => ?_⟩
  simp [hb] at h

theorem toNat_char {b : UInt8} (h : b.toNat < 0x7F) : (Char.ofNat b.toNat).toNat = b.toNat :=
  Utf8.toNat_ofNat (.inl (by omega))

theorem unescape?_plain {c : Char} (hc : c ≠ '%') (rest : List Char) :
    unescape? (c :: rest) = (unescape? rest).map (c.toNat.toUInt8 :: ·) := by
  rw [unescape?.eq_def]
  exact if_neg hc

theorem unescape?_escape {high low : Nat} (hhigh : high < 16) (hlow : low < 16) (rest : List Char) :
    unescape? ('%' :: Hex.digit true high :: Hex.digit true low :: rest) =
      (unescape? rest).map ((16 * high + low).toUInt8 :: ·) := by
  rw [unescape?.eq_def]
  simp only [if_pos, Hex.value?_digit true hhigh, Hex.value?_digit true hlow]
  cases unescape? rest <;> rfl

theorem unescape?_encodeByte (b : UInt8) (rest : List Char) :
    unescape? (encodeByte b ++ rest) = (unescape? rest).map (b :: ·) := by
  by_cases hb : isPlain b = true
  · obtain ⟨-, hhigh, hpercent⟩ := isPlain_bounds hb
    have hne : Char.ofNat b.toNat ≠ '%' := by
      intro h
      apply hpercent
      rw [← toNat_char hhigh, h]
      rfl
    rw [encodeByte, if_pos hb, List.singleton_append, unescape?_plain hne, toNat_char hhigh, Utf8.toUInt8_eq rfl]
  · have hlt := b.toNat_lt
    have hwhole : (16 * (b.toNat / 16) + b.toNat % 16).toUInt8 = b := Utf8.toUInt8_eq (by omega)
    rw [encodeByte, if_neg hb, List.cons_append, List.cons_append, List.singleton_append,
      unescape?_escape (by omega) (by omega), hwhole]

theorem unescape?_encodeComponent (part : Bytes) : unescape? (encodeComponent part).toList = some part := by
  rw [encodeComponent, String.toList_ofList]
  induction part with
  | nil => rfl
  | cons b part ih => rw [List.flatMap_cons, unescape?_encodeByte, ih, Option.map_some]

theorem slash_not_mem_encodeByte {b : UInt8} (hb : b ≠ Path.separator) : '/' ∉ encodeByte b := by
  unfold encodeByte
  split
  · rename_i hplain
    intro hmem
    apply hb
    apply UInt8.toNat_inj.mp
    rw [← toNat_char (isPlain_bounds hplain).2.1, ← List.mem_singleton.mp hmem]
    rfl
  · have hlt := b.toNat_lt
    intro hmem
    simp only [List.mem_cons, List.not_mem_nil, or_false] at hmem
    rcases hmem with h | h | h
    · exact absurd h (by decide)
    · exact digit_ne_slash (by omega) h.symm
    · exact digit_ne_slash (by omega) h.symm

theorem slash_not_mem_encodeComponent {part : Bytes} (h : Path.separator ∉ part) :
    '/' ∉ (encodeComponent part).toList := by
  rw [encodeComponent, String.toList_ofList]
  intro hmem
  obtain ⟨b, hb, hslash⟩ := List.mem_flatMap.mp hmem
  exact slash_not_mem_encodeByte (fun he => h (he ▸ hb)) hslash

theorem length_encodeByte (b : UInt8) : (encodeByte b).length = if isPlain b then 1 else 3 := by
  unfold encodeByte
  split <;> rfl

theorem length_le_flatMap_encodeByte (part : Bytes) : part.length ≤ (part.flatMap encodeByte).length := by
  induction part with
  | nil => exact Nat.le_refl 0
  | cons b part ih =>
    have hb : 1 ≤ (encodeByte b).length := by
      rw [length_encodeByte]
      split <;> omega
    rw [List.flatMap_cons, List.length_append, List.length_cons]
    omega

theorem isPlain_of_length_le {part : Bytes} (h : (part.flatMap encodeByte).length ≤ part.length) :
    ∀ b ∈ part, isPlain b = true := by
  induction part with
  | nil => nofun
  | cons b part ih =>
    have hrest := length_le_flatMap_encodeByte part
    have hlength := length_encodeByte b
    rw [List.flatMap_cons, List.length_append, List.length_cons] at h
    have hb : isPlain b = true := by
      cases hplain : isPlain b with
      | true => rfl
      | false =>
        rw [hplain, if_neg (by decide)] at hlength
        omega
    rw [hb, if_pos rfl] at hlength
    intro c hc
    rcases List.mem_cons.mp hc with rfl | hc
    · exact hb
    · exact ih (by omega) c hc

theorem encode_flatMap_encodeByte {part : Bytes} (h : ∀ b ∈ part, isPlain b = true) :
    Utf8.encode (part.flatMap encodeByte) = part := by
  induction part with
  | nil => rfl
  | cons b part ih =>
    have hb := h b List.mem_cons_self
    have hlow : b.toNat < 0x80 := Nat.lt_trans (isPlain_bounds hb).2.1 (by decide)
    rw [List.flatMap_cons, encodeByte, if_pos hb, List.singleton_append, Utf8.encode_cons, Utf8.encodeChar_one hlow,
      List.singleton_append, ih fun c hc => h c (List.mem_cons_of_mem b hc)]

/-- A segment reads like its component exactly where nothing is escaped. -/
theorem encodeComponent_eq_iff {part : Bytes} {text : String} (h : part.text? = some text) :
    encodeComponent part = text ↔ ∀ b ∈ part, isPlain b = true := by
  obtain ⟨cs, hcs, rfl⟩ := Option.map_eq_some_iff.mp h
  have hpart := Utf8.decode?_eq_some_iff.mp hcs
  rw [encodeComponent, String.ofList_inj]
  constructor
  · intro heq
    apply isPlain_of_length_le
    rw [heq, hpart]
    exact Utf8.length_le_length_encode cs
  · intro hplain
    apply Utf8.encode_injective
    rw [encode_flatMap_encodeByte hplain, hpart]

theorem encodeComponent_ne_empty {part : Bytes} (h : part ≠ []) : encodeComponent part ≠ "" := by
  intro he
  have hnil : part.flatMap encodeByte = [] := by
    rw [← String.toList_ofList (l := part.flatMap encodeByte), ← encodeComponent, he]
    rfl
  have hlength := length_le_flatMap_encodeByte part
  rw [hnil] at hlength
  exact h (List.eq_nil_of_length_eq_zero (Nat.le_zero.mp hlength))

/-- Behind the last slash of a URI stands its last segment. -/
theorem render_concat (front : List String) (segment : String) :
    ∃ before, render ⟨front ++ [segment]⟩ = before ++ "/" ++ segment := by
  refine ⟨"file://" ++ String.join (front.map fun s => "/" ++ s), ?_⟩
  apply String.toList_inj.mp
  rw [render, if_neg (by simp)]
  simp

theorem lastSegment?_of_components {part p : Bytes} (h : Path.lastComponent? p = some part) :
    lastSegment? ⟨(Path.components p).map encodeComponent⟩ = some (encodeComponent part) := by
  have hmem : part ∈ Path.components p := List.mem_of_getLast? h
  have hne : encodeComponent part ≠ "" := encodeComponent_ne_empty (Path.isName_of_mem_components hmem).filled
  rw [lastSegment?, List.getLast?_map, ← Path.lastComponent?, h]
  simp [hne]

end LspClient.FileUri

namespace LspClient.Initialize

theorem folderName_of_components {part p : Bytes} (h : Path.lastComponent? p = some part) :
    folderName ⟨(Path.components p).map FileUri.encodeComponent⟩ = FileUri.encodeComponent part := by
  rw [folderName, FileUri.lastSegment?_of_components h, Option.getD_some]

/-- The folder's name spells the last component of the path in the escapes of a URI, so it is that component only where
no byte of it is escaped. -/
theorem folder_named_by_segment (process : Json) (level : TraceLevel) {p : Bytes} (hp : Path.isAbsolute p = true) :
    ∃ uri name, FileUri.ofPath p = .ok uri ∧
      uri.render =
        (if Path.components p = [] then "file:///"
        else "file://" ++ String.join ((Path.components p).map fun part => "/" ++ FileUri.encodeComponent part)) ∧
      (params process (some uri) level).get? "rootUri" = some (.str uri.render) ∧
      (params process (some uri) level).get? "workspaceFolders" =
        some (.arr [.obj [("name", .str name), ("uri", .str uri.render)]]) ∧
      (Path.components p = [] → name = "workspace") ∧
      ∀ part, Path.lastComponent? p = some part →
        (∃ before, uri.render = before ++ "/" ++ name) ∧ '/' ∉ name.toList ∧
        FileUri.unescape? name.toList = some part ∧
        ∀ text, part.text? = some text → (name = text ↔ ∀ b ∈ part, FileUri.isPlain b = true) := by
  refine ⟨⟨(Path.components p).map FileUri.encodeComponent⟩, _, if_pos hp, ?_, rfl, rfl, ?_, ?_⟩
  · simp [FileUri.render, Function.comp_def]
  · intro hroot
    simp [hroot, folderName, FileUri.lastSegment?, unnamedWorkspace]
  · intro part hpart
    rw [folderName_of_components hpart]
    refine ⟨?_, ?_, FileUri.unescape?_encodeComponent part, fun text => FileUri.encodeComponent_eq_iff⟩
    · obtain ⟨front, hfront⟩ := List.getLast?_eq_some_iff.mp hpart
      rw [hfront, List.map_append, List.map_singleton]
      exact FileUri.render_concat _ _
    · exact FileUri.slash_not_mem_encodeComponent (Path.not_mem_of_mem_components (List.mem_of_getLast? hpart))

theorem folder_named_by_segment_plain :
    Path.isAbsolute (Bytes.ofString "/my work/./site-2/") = true ∧
      ∃ uri name, FileUri.ofPath (Bytes.ofString "/my work/./site-2/") = .ok uri ∧
        (params .null (some uri) .verbose).get? "workspaceFolders" =
          some (.arr [.obj [("name", .str name), ("uri", .str uri.render)]]) ∧
        name = "site-2" := by
  refine ⟨by decide, ?_⟩
  obtain ⟨uri, name, huri, -, -, hfolders, -, hname⟩ :=
    folder_named_by_segment .null .verbose (p := Bytes.ofString "/my work/./site-2/") (by decide)
  obtain ⟨-, -, -, hiff⟩ := hname (Bytes.ofString "site-2") (by decide)
  have hplain : (Bytes.ofString "site-2").all FileUri.isPlain = true := by decide
  exact ⟨uri, name, huri, hfolders, (hiff "site-2" (by decide)).mpr (List.all_eq_true.mp hplain)⟩

/-- A space in the path shows as an escape in the name. -/
theorem folder_name_keeps_escape :
    ∃ uri, FileUri.ofPath (Bytes.ofString "/a b") = .ok uri ∧
      Path.lastComponent? (Bytes.ofString "/a b") = some (Bytes.ofString "a b") ∧
      (params .null (some uri) .messages).get? "workspaceFolders" =
        some (.arr [.obj [("name", .str "a%20b"), ("uri", .str uri.render)]]) ∧
      "a%20b" ≠ "a b" :=
  ⟨_, rfl, by decide, rfl, by decide⟩

end LspClient.Initialize
