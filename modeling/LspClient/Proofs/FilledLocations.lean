import LspClient.Proofs.CommandPrecedence

/-!
# Server locations are never blank

The check of a location looks at the path as it shows, and a path shows as blank only if it is the byte form of white
space. The place of a shipped server is made without that check. It passes all the same: joining either keeps what is
in front, the server's directory with it, or goes over to an absolute path, which begins with a slash, and in any bytes
a slash or a letter shows as itself. That the front was not blank would not do: bytes that break off inside a character
do not show as blank, and can become white space when more bytes follow.
-/

namespace LspClient

namespace Path

theorem shows_of_isAbsolute {p : Bytes} (h : isAbsolute p = true) : Shows p := by
  have hhead : p.head? = some separator := by simpa [isAbsolute] using h
  exact ⟨separator, List.mem_of_head? hhead, by decide, by decide⟩

theorem Shows.join {p : Bytes} (h : Shows p) (q : Bytes) : Shows (join p q) := by
  unfold Path.join
  split
  · rename_i habsolute
    exact shows_of_isAbsolute habsolute
  · obtain ⟨b, hb, hshows⟩ := h
    split
    · exact ⟨b, List.mem_append_left q hb, hshows⟩
    · exact ⟨b, List.mem_append_left _ hb, hshows⟩

end Path

namespace ServerLocation

theorem ofPath_eq_ok_iff {p : Bytes} {l : ServerLocation} :
    ofPath p = .ok l ↔ l.path = p ∧ Text.isBlank (Utf8.decodeLossy p) = false := by
  unfold ofPath
  split
  · rename_i hblank
    simp [hblank]
  · rename_i hfilled
    rw [Bool.not_eq_true] at hfilled
    constructor
    · intro h
      cases h
      exact ⟨rfl, hfilled⟩
    · rintro ⟨rfl, -⟩
      rfl

theorem ofPath_eq_error_iff (p : Bytes) :
    (∃ e, ofPath p = .error e) ↔ Text.isBlank (Utf8.decodeLossy p) = true := by
  unfold ofPath
  split
  · rename_i hblank
    exact ⟨fun _ => hblank, fun _ => ⟨_, rfl⟩⟩
  · rename_i hfilled
    constructor
    · rintro ⟨e, he⟩
      cases he
    · intro hblank
      exact absurd hblank hfilled

theorem ofPath_bundled (root : Bytes) (directory file : String) :
    ofPath (bundled root directory file).path = .ok (bundled root directory file) := by
  have hserver : Path.Shows (Path.joinText root serverDirectory) :=
    ⟨0x73, Path.mem_joinText (by decide) root, by decide, by decide⟩
  have hpath : Path.Shows (bundled root directory file).path := (hserver.join _).join _
  exact ofPath_eq_ok_iff.mpr ⟨rfl, hpath.isBlank⟩

theorem ofPath_of_resolve {p : Platform} {given : Option String} {root : Bytes} {l : ServerLocation}
    (h : resolve p given root = .ok l) : ofPath l.path = .ok l := by
  unfold resolve at h
  split at h
  · rename_i location hgiven
    cases h
    obtain ⟨command, -, hcommand⟩ := Option.map_eq_some_iff.mp hgiven
    rwa [(ofPath_eq_ok_iff.mp hcommand).1]
  · split at h
    · cases h
      exact ofPath_bundled _ _ _
    · cases h

theorem locations_never_blank :
    (∀ v : Bytes,
      ((∃ e, ofPath v = .error e) ↔
        ∃ cs : List Char, (∀ c ∈ cs, Text.isBlankChar c = true) ∧ v = Utf8.encode cs) ∧
      ∀ l, ofPath v = .ok l → l.path = v) ∧
    (∀ (root : Bytes) (directory file : String),
      ofPath (bundled root directory file).path = .ok (bundled root directory file)) ∧
    ∀ (p : Platform) (given : Option String) (root : Bytes) (l : ServerLocation),
      resolve p given root = .ok l → ofPath l.path = .ok l := by
  refine ⟨fun v => ⟨?_, fun l h => (ofPath_eq_ok_iff.mp h).1⟩, ofPath_bundled, fun _ _ _ _ => ofPath_of_resolve⟩
  rw [ofPath_eq_error_iff, Utf8.isBlank_decodeLossy_iff]
  simp only [Text.isBlank, List.all_eq_true]

/-- A blank command makes way for the shipped server, and the root breaks off inside white space. -/
theorem locations_never_blank_broken_root :
    ∃ l, resolve .linux (some " ") [0xE2, 0x80] = .ok l ∧ ofPath l.path = .ok l := by
  have hresolve : ∃ l, resolve .linux (some " ") [0xE2, 0x80] = .ok l := ⟨_, rfl⟩
  obtain ⟨l, hl⟩ := hresolve
  exact ⟨l, hl, locations_never_blank.2.2 .linux (some " ") [0xE2, 0x80] l hl⟩

/-- Bytes that break off inside white space do not show as blank; with the byte that is missing they do. -/
example : ofPath [0xE2, 0x80] = .ok ⟨[0xE2, 0x80]⟩ ∧ ofPath [0xE2, 0x80, 0x83] = .error .emptyCommand := by decide

end ServerLocation

end LspClient
