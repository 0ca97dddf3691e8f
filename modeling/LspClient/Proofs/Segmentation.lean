import LspClient.Config.Expand

/-!
# Segmentations of configured values

A value is text with references in between. Where the references are is said here without reading the value from the
left: no text but the last has an opening, no reference has a closing brace, and what the last text opens it never
closes. Each value has exactly one such segmentation, and it is the one that the reading finds.
-/

namespace LspClient.Config

/-- The characters that open a reference. -/
def opening : List Char := ['$', '\x7b']

theorem opening_ne_nil : opening ≠ [] := List.cons_ne_nil _ _

/-- Texts, each with the reference behind it, and a last text. -/
structure Segmentation where
  parts : List (List Char × List Char)
  last : List Char

namespace Segmentation

/-- The value that is taken apart. -/
def text (s : Segmentation) : List Char :=
  s.parts.flatMap (fun part => part.1 ++ opening ++ part.2 ++ ['\x7d']) ++ s.last

/-- The value with its references replaced. -/
def fill (e : List Char → List Char) (s : Segmentation) : List Char :=
  s.parts.flatMap (fun part => part.1 ++ e part.2) ++ s.last

structure Proper (s : Segmentation) : Prop where
  plain : ∀ part ∈ s.parts, ¬ opening <:+: part.1
  named : ∀ part ∈ s.parts, '\x7d' ∉ part.2
  unclosed : ∀ before behind, s.last = before ++ opening ++ behind → '\x7d' ∉ behind

theorem text_cons (l v : List Char) (parts : List (List Char × List Char)) (last : List Char) :
    text ⟨(l, v) :: parts, last⟩ = l ++ '$' :: '\x7b' :: (v ++ '\x7d' :: text ⟨parts, last⟩) := by
  simp [text, opening]

theorem fill_cons (e : List Char → List Char) (l v : List Char) (parts : List (List Char × List Char))
    (last : List Char) : fill e ⟨(l, v) :: parts, last⟩ = l ++ (e v ++ fill e ⟨parts, last⟩) := by
  simp [fill]

section Compare
variable {e e' : List Char → List Char} (h : ∀ v, e' v = [] ∨ e' v = e v)
include h

theorem length_fill_le (s : Segmentation) : (s.fill e').length ≤ (s.fill e).length := by
  obtain ⟨parts, last⟩ := s
  induction parts with
  | nil => exact Nat.le_refl _
  | cons part parts ih =>
    have hv : (e' part.2).length ≤ (e part.2).length := by
      rcases h part.2 with hnil | heq
      · rw [hnil]
        exact Nat.zero_le _
      · exact Nat.le_of_eq (congrArg List.length heq)
    rw [fill_cons, fill_cons]
    simp only [List.length_append]
    omega

/-- What is left out nowhere shows unless it is empty. -/
theorem fill_eq_iff (s : Segmentation) : s.fill e = s.fill e' ↔ ∀ part ∈ s.parts, e' part.2 = e part.2 := by
  obtain ⟨parts, last⟩ := s
  induction parts with
  | nil => exact ⟨fun _ => nofun, fun _ => rfl⟩
  | cons part parts ih =>
    obtain ⟨l, v⟩ := part
    have hle := length_fill_le h ⟨parts, last⟩
    rw [fill_cons, fill_cons, List.append_cancel_left_eq, List.forall_mem_cons, ← ih]
    constructor
    · intro hfill
      have hv : e' v = e v := by
        rcases h v with hnil | heq
        · have hlength := congrArg List.length hfill
          simp only [hnil, List.length_append, List.length_nil] at hlength
          rw [hnil]
          exact (List.eq_nil_of_length_eq_zero (by omega)).symm
        · exact heq
      rw [hv] at hfill
      exact ⟨hv, List.append_cancel_left hfill⟩
    · rintro ⟨hv, hrest⟩
      rw [hv, hrest]

end Compare

theorem Proper.tail {l v : List Char} {parts : List (List Char × List Char)} {last : List Char}
    (h : Proper ⟨(l, v) :: parts, last⟩) : Proper ⟨parts, last⟩ :=
  ⟨(List.forall_mem_cons.mp h.plain).2, (List.forall_mem_cons.mp h.named).2, h.unclosed⟩

end Segmentation

theorem head?_of_not_opening {cs : List Char} (h : ¬ opening <:+: '$' :: cs) : cs.head? ≠ some '\x7b' := by
  intro hhead
  obtain ⟨rest, rfl⟩ := List.head?_eq_some_iff.mp hhead
  exact h ⟨[], rest, rfl⟩

/-- A value with an opening has a first one. -/
theorem exists_first_opening {cs : List Char} (h : opening <:+: cs) :
    ∃ before behind, cs = before ++ '$' :: '\x7b' :: behind ∧ ¬ opening <:+: before := by
  induction cs with
  | nil => exact absurd (List.eq_nil_of_infix_nil h) opening_ne_nil
  | cons c cs ih =>
    by_cases hc : opening <+: c :: cs
    · obtain ⟨behind, hbehind⟩ := hc
      exact ⟨[], behind, hbehind.symm, fun hnil => opening_ne_nil (List.eq_nil_of_infix_nil hnil)⟩
    · have hcs : opening <:+: cs := by
        rcases List.infix_cons_iff.mp h with hbegin | hinside
        · exact absurd hbegin hc
        · exact hinside
      obtain ⟨before, behind, rfl, hbefore⟩ := ih hcs
      refine ⟨c :: before, behind, rfl, fun hcons => ?_⟩
      rcases List.infix_cons_iff.mp hcons with hbegin | hinside
      · exact hc (hbegin.trans (List.prefix_append (c :: before) _))
      · exact hbefore hinside

/-- Behind the first opening lies whatever lies behind another one. -/
theorem suffix_of_first_opening {before behind front back : List Char} (hbefore : ¬ opening <:+: before)
    (h : before ++ '$' :: '\x7b' :: behind = front ++ opening ++ back) : back <:+ behind := by
  induction before generalizing front with
  | nil =>
    cases front with
    | nil =>
      cases h
      exact List.suffix_rfl
    | cons c front =>
      cases front with
      | nil => cases h
      | cons d front =>
        cases h
        exact ⟨front ++ opening, rfl⟩
  | cons c before ih =>
    have hrest : ¬ opening <:+: before := fun hinside => hbefore (List.infix_cons_iff.mpr (.inr hinside))
    cases front with
    | cons d front => exact ih hrest (List.cons.inj h).2
    | nil =>
      obtain ⟨rfl, h⟩ := List.cons.inj h
      -- The first of the two would be an opening of its own.
      have hhead := head?_of_not_opening hbefore
      cases before with
      | nil => cases h
      | cons d before =>
        cases h
        exact absurd rfl hhead

section Reading

theorem segmentsFrom_dollar {cs : List Char} (h : cs.head? ≠ some '\x7b') (read : List Char) :
    segmentsFrom (.dollar read) cs = segmentsFrom (.text ('$' :: read)) cs := by
  cases cs with
  | nil => rfl
  | cons c cs =>
    have hc : c ≠ '\x7b' := fun hc => h (congrArg some hc)
    rw [segmentsFrom, segmentsFrom, if_neg hc]

/-- A text without an opening is read as it stands, whatever follows it. -/
theorem segmentsFrom_plain {l rest : List Char} (h : ¬ opening <:+: l) (hrest : rest.head? ≠ some '\x7b')
    (read : List Char) : segmentsFrom (.text read) (l ++ rest) = segmentsFrom (.text (l.reverse ++ read)) rest := by
  induction l generalizing read with
  | nil => rfl
  | cons c l ih =>
    have hl : ¬ opening <:+: l := fun hinside => h (List.infix_cons_iff.mpr (.inr hinside))
    rw [List.cons_append, segmentsFrom, List.reverse_cons, List.append_assoc]
    split
    · rename_i hc
      subst hc
      have hhead : (l ++ rest).head? ≠ some '\x7b' := by
        cases l with
        | nil => exact hrest
        | cons d l =>
          have hd := head?_of_not_opening h
          exact hd
      rw [segmentsFrom_dollar hhead]
      exact ih hl _
    · exact ih hl _

theorem segmentsFrom_name {v : List Char} (h : '\x7d' ∉ v) (read name rest : List Char) :
    segmentsFrom (.reference read name) (v ++ rest) = segmentsFrom (.reference read (v.reverse ++ name)) rest := by
  induction v generalizing name with
  | nil => rfl
  | cons c v ih =>
    have hc : c ≠ '\x7d' := fun hc => h (List.mem_cons.mpr (.inl hc.symm))
    have hv : '\x7d' ∉ v := fun hmem => h (List.mem_cons_of_mem c hmem)
    rw [List.cons_append, segmentsFrom, if_neg hc, ih hv, List.reverse_cons, List.append_assoc]
    rfl

theorem segmentsFrom_opening {l : List Char} (h : ¬ opening <:+: l) (rest : List Char) :
    segments (l ++ '$' :: '\x7b' :: rest) = segmentsFrom (.reference l.reverse []) rest := by
  rw [segments, segmentsFrom_plain h (by simp), List.append_nil]
  rfl

theorem segments_reference {l v : List Char} (hl : ¬ opening <:+: l) (hv : '\x7d' ∉ v) (rest : List Char) :
    segments (l ++ '$' :: '\x7b' :: (v ++ '\x7d' :: rest)) = .text l :: .reference v :: segments rest := by
  rw [segmentsFrom_opening hl, segmentsFrom_name hv, segmentsFrom, if_pos rfl, List.append_nil, List.reverse_reverse,
    List.reverse_reverse]
  rfl

theorem segments_last {last : List Char} (h : ∀ before behind, last = before ++ opening ++ behind → '\x7d' ∉ behind) :
    segments last = [.text last] := by
  by_cases hopening : opening <:+: last
  · obtain ⟨before, behind, rfl, hbefore⟩ := exists_first_opening hopening
    have hbehind : '\x7d' ∉ behind := h before behind (by simp [opening])
    have hread := segmentsFrom_name hbehind before.reverse [] []
    rw [List.append_nil, List.append_nil] at hread
    rw [segmentsFrom_opening hbefore, hread, segmentsFrom, List.reverse_reverse, List.reverse_reverse]
  · have hread : segmentsFrom (.text []) (last ++ []) = segmentsFrom (.text (last.reverse ++ [])) [] :=
      segmentsFrom_plain hopening (by simp) []
    rw [List.append_nil, List.append_nil] at hread
    rw [segments, hread, segmentsFrom, List.reverse_reverse]

end Reading

namespace Segmentation

def segments (s : Segmentation) : List Segment :=
  s.parts.flatMap (fun part => [.text part.1, .reference part.2]) ++ [.text s.last]

theorem segments_cons (part : List Char × List Char) (parts : List (List Char × List Char)) (last : List Char) :
    segments ⟨part :: parts, last⟩ = .text part.1 :: .reference part.2 :: segments ⟨parts, last⟩ := rfl

theorem segments_injective {s t : Segmentation} (h : s.segments = t.segments) : s = t := by
  obtain ⟨parts, last⟩ := s
  obtain ⟨parts', last'⟩ := t
  induction parts generalizing parts' with
  | nil =>
    cases parts' with
    | nil =>
      cases h
      rfl
    | cons part' parts' =>
      rw [segments_cons] at h
      cases h
  | cons part parts ih =>
    cases parts' with
    | nil =>
      rw [segments_cons] at h
      cases h
    | cons part' parts' =>
      rw [segments_cons, segments_cons] at h
      obtain ⟨htext, h⟩ := List.cons.inj h
      obtain ⟨hname, h⟩ := List.cons.inj h
      cases ih parts' h
      rw [Prod.ext (Segment.text.inj htext) (Segment.reference.inj hname)]

/-- The reading finds the segmentation. The induction is on the references. -/
theorem Proper.segments_text {s : Segmentation} (h : s.Proper) : Config.segments s.text = s.segments := by
  obtain ⟨parts, last⟩ := s
  induction parts with
  | nil => exact segments_last h.unclosed
  | cons part parts ih =>
    obtain ⟨l, v⟩ := part
    have hl : ¬ opening <:+: l := h.plain (l, v) List.mem_cons_self
    have hv : '\x7d' ∉ v := h.named (l, v) List.mem_cons_self
    rw [text_cons, segments_reference hl hv, ih h.tail, segments_cons]

theorem Proper.unique {s t : Segmentation} (hs : s.Proper) (ht : t.Proper) (h : s.text = t.text) : s = t := by
  apply segments_injective
  rw [← hs.segments_text, ← ht.segments_text, h]

theorem exists_proper (value : List Char) : ∃ s : Segmentation, s.Proper ∧ s.text = value := by
  induction hlen : value.length using Nat.strongRecOn generalizing value with
  | ind len ih =>
    by_cases hopening : opening <:+: value
    · obtain ⟨l, behind, rfl, hl⟩ := exists_first_opening hopening
      by_cases hclosed : '\x7d' ∈ behind
      · obtain ⟨v, rest, rfl, hv⟩ := List.eq_append_cons_of_mem hclosed
        have hless : rest.length < len := by
          simp only [List.length_append, List.length_cons] at hlen
          omega
        obtain ⟨⟨parts, last⟩, hs, rfl⟩ := ih rest.length hless rest rfl
        refine ⟨⟨(l, v) :: parts, last⟩, ⟨?_, ?_, hs.unclosed⟩, text_cons l v parts last⟩
        · exact List.forall_mem_cons.mpr ⟨hl, hs.plain⟩
        · exact List.forall_mem_cons.mpr ⟨hv, hs.named⟩
      · -- The first reference is never closed, so all the rest is text.
        refine ⟨⟨[], _⟩, ⟨nofun, nofun, fun front back hlast hback => ?_⟩, rfl⟩
        exact hclosed ((suffix_of_first_opening hl hlast).subset hback)
    · refine ⟨⟨[], value⟩, ⟨nofun, nofun, fun front back hlast => ?_⟩, rfl⟩
      exact absurd ⟨front, back, hlast.symm⟩ hopening

theorem Proper.toList_expandWith {s : Segmentation} (h : s.Proper) {value : String} (hvalue : s.text = value.toList)
    (lookup : String → Option String) :
    (expandWith lookup value).toList = s.fill fun v => ((lookup (String.ofList v)).getD "").toList := by
  rw [expandWith, String.toList_ofList, ← hvalue, h.segments_text]
  simp [Segmentation.segments, fill, List.flatMap_append, List.flatMap_assoc, Segment.expand]

end Segmentation

end LspClient.Config
