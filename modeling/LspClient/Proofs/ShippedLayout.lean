import LspClient.Host
import LspClient.Proofs.CommandPrecedence

/-!
# The layout of shipped servers

Where the shipped server of a platform is can be asked in two ways. The layout gives the place below any install root,
and a host makes it absolute; resolving a command goes down from the root, one part after the other. The two agree
since joining is associative, and that holds for every root: one that is empty, that ends in a separator, that is
relative or that is no text at all. So the layout is what resolving gives below the empty root.
-/

namespace LspClient.ServerLocation

theorem bundled_eq_join (root : Bytes) (directory file : String) :
    (bundled root directory file).path = Path.join root (bundled [] directory file).path := by
  simp only [bundled, Path.joinText, Path.nil_join, Path.join_assoc]

/-- A command that is not there or blank leaves it to the platform. -/
theorem resolve_of_blank {given : Option String} (h : ∀ s ∈ given, Text.isBlank s.toList = true) (p : Platform)
    (root : Bytes) : resolve p given root = resolve p none root := by
  cases given with
  | none => rfl
  | some command =>
    have hcommand : ofPath (Bytes.ofString command) = .error .emptyCommand := by
      rw [ofPath, isBlank_ofString, if_pos (h command rfl)]
    simp [resolve, hcommand]

theorem layout_eq_resolve (p : Platform) : layout p = (resolve p none []).map path := by
  unfold layout resolve
  cases hshipped : shipped p with
  | error e => rfl
  | ok place =>
    simp [Except.map, bundled, Path.joinText, Path.nil_join]

theorem resolve_eq_layout (p : Platform) (root : Bytes) :
    resolve p none root = (layout p).map fun place => ⟨Path.join root place⟩ := by
  rw [layout_eq_resolve]
  unfold resolve
  cases hshipped : shipped p with
  | error e => rfl
  | ok place =>
    simp [Except.map, ← bundled_eq_join]

/-- The layout of a platform is the place of its server below no root at all. -/
theorem layout_cases (p : Platform) :
    (∃ place, layout p = .ok place ∧ Ships [] p place) ∨ ∃ name, p = .unsupported name ∧ layout p = .error ⟨name⟩ := by
  rw [layout_eq_resolve]
  rcases resolve_none_cases p [] with ⟨path, hships, hresolve⟩ | ⟨name, hp, hresolve⟩
  · exact .inl ⟨path, by rw [hresolve]; rfl, hships⟩
  · exact .inr ⟨name, hp, by rw [hresolve]; rfl⟩

theorem layout_eq_error_iff (p : Platform) (e : Platform.Unsupported) :
    layout p = .error e ↔ p = .unsupported e.name := by
  rcases layout_cases p with ⟨place, hlayout, hships⟩ | ⟨name, rfl, hlayout⟩
  · rw [hlayout]
    refine ⟨nofun, ?_⟩
    rintro rfl
    cases hships
  · rw [hlayout]
    obtain ⟨name'⟩ := e
    simp

theorem layout_eq_ok_iff (p : Platform) (place : Bytes) : layout p = .ok place ↔ Ships [] p place := by
  rcases layout_cases p with ⟨place', hlayout, hships⟩ | ⟨name, rfl, hlayout⟩
  · rw [hlayout]
    constructor
    · intro h
      cases h
      exact hships
    · intro h
      rw [hships.unique h]
  · rw [hlayout]
    refine ⟨nofun, ?_⟩
    intro h
    cases h

theorem resolved_at_layout (p : Platform) (given : Option String) (root : Bytes)
    (hblank : ∀ s ∈ given, Text.isBlank s.toList = true) :
    (∀ e, resolve p given root = .error e ↔ layout p = .error e) ∧
    (∀ e, layout p = .error e ↔ p = .unsupported e.name) ∧
    (∀ place, layout p = .ok place ↔ Ships [] p place) ∧
    (∀ l, resolve p given root = .ok l ↔ ∃ place, layout p = .ok place ∧ l.path = Path.join root place) ∧
    ∀ host : Host, host.root = root → ∀ place, layout p = .ok place →
      resolve p given root = .ok ⟨host.absolutePath place⟩ := by
  have hresolve : resolve p given root = (layout p).map fun place => ⟨Path.join root place⟩ :=
    (resolve_of_blank hblank p root).trans (resolve_eq_layout p root)
  refine ⟨?_, layout_eq_error_iff p, layout_eq_ok_iff p, ?_, ?_⟩
  · intro e
    rw [hresolve]
    cases layout p <;> simp [Except.map]
  · rintro ⟨path⟩
    rw [hresolve]
    cases layout p <;> simp [Except.map, eq_comm]
  · rintro host rfl place hplace
    rw [hresolve, hplace]
    rfl

/-- A blank command, and a root that is no text and ends in a separator. -/
theorem resolved_at_layout_broken_root :
    Text.isBlank " \t".toList = true ∧
      ∃ place, layout .windows = .ok place ∧
        resolve .windows (some " \t") [0xFF, Path.separator] =
          .ok ⟨Host.absolutePath ⟨[0xFF, Path.separator], .windows, [], none⟩ place⟩ := by
  have hblank : ∀ s ∈ some " \t", Text.isBlank s.toList = true := by
    rintro s ⟨⟩
    decide
  have hlayout : ∃ place, layout .windows = .ok place := ⟨_, rfl⟩
  obtain ⟨place, hplace⟩ := hlayout
  have hagree := resolved_at_layout .windows (some " \t") [0xFF, Path.separator] hblank
  exact ⟨hblank _ rfl, place, hplace, hagree.2.2.2.2 _ rfl place hplace⟩

end LspClient.ServerLocation
