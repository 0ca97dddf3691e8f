import LspClient.Config.Load
import LspClient.Proofs.Invocation
import LspClient.Proofs.PathComponents
import LspClient.Proofs.Text
import LspClient.Proofs.Utf8Pieces

/-!
# Which command is launched

The environment may name a server command, and so may the configuration. The first of them that is not blank is taken
as it stands, and where there is none the server shipped for the platform. That a command is not blank is asked of the
configured text, of the variable and of the path that is made of either, and the answers agree: a path shows as blank
only if it is the byte form of a blank text.
-/

namespace LspClient

theorem Path.mem_joinText {b : UInt8} {q : String} (h : b ∈ Bytes.ofString q) (p : Bytes) : b ∈ Path.joinText p q := by
  unfold Path.joinText Path.join
  split
  · exact h
  · split
    · exact List.mem_append_right p h
    · exact List.mem_append_right p (List.mem_cons_of_mem _ h)

/-- Some byte shows as a character that is not white space, whatever stands around it. -/
def Path.Shows (p : Bytes) : Prop :=
  ∃ b ∈ p, b.toNat < 0x80 ∧ Text.isBlankChar (Char.ofNat b.toNat) = false

theorem Path.Shows.isBlank {p : Bytes} (h : Path.Shows p) : Text.isBlank (Utf8.decodeLossy p) = false := by
  obtain ⟨b, hb, hlow, hfilled⟩ := h
  cases hblank : Text.isBlank (Utf8.decodeLossy p) with
  | false => rfl
  | true =>
    obtain ⟨cs, hcs, rfl⟩ := (Utf8.isBlank_decodeLossy_iff p).mp hblank
    obtain ⟨c, hc, hbc⟩ := List.mem_flatMap.mp hb
    rw [← Utf8.toNat_eq_of_mem_encodeChar hbc hlow, Char.ofNat_toNat] at hfilled
    exact absurd hc (Text.not_mem_of_isBlank hfilled hcs)

/-- A relative path that another one can follow behind a separator. -/
structure Path.Leads (q : Bytes) : Prop where
  relative : Path.isAbsolute q = false
  filled : q ≠ []
  unended : q.getLast? ≠ some Path.separator

theorem Path.Leads.append {q r : Bytes} (hq : Path.Leads q) (hr : Path.Leads r) :
    Path.Leads (q ++ Path.separator :: r) := by
  obtain ⟨b, q, rfl⟩ := List.exists_cons_of_ne_nil hq.filled
  obtain ⟨c, r, rfl⟩ := List.exists_cons_of_ne_nil hr.filled
  refine ⟨hq.relative, List.cons_ne_nil _ _, ?_⟩
  have hlast : (b :: q ++ Path.separator :: c :: r).getLast? = (c :: r).getLast? := by
    rw [List.getLast?_append, List.getLast?_cons_cons, List.getLast?_eq_some_getLast hr.filled, Option.some_or]
  rw [hlast]
  exact hr.unended

theorem Path.Leads.join_eq {q r : Bytes} (hq : Path.Leads q) (hr : Path.isAbsolute r = false) :
    Path.join q r = q ++ Path.separator :: r := by
  have hopen : ¬ (q = [] ∨ q.getLast? = some Path.separator) := not_or.mpr ⟨hq.filled, hq.unended⟩
  rw [Path.join, if_neg (by simp [hr]), if_neg hopen]

namespace ServerLocation

/-- Where the server for a platform is shipped. -/
inductive Ships (root : Bytes) : Platform → Bytes → Prop where
  | windows : Ships root .windows (Path.joinText root "server/windows/asp-lsp.exe")
  | macos : Ships root .macos (Path.joinText root "server/macos/asp-lsp")
  | linux : Ships root .linux (Path.joinText root "server/linux/asp-lsp")

/-- The command for the given ones, the platform and the install root. -/
inductive Chooses (given : List String) (p : Platform) (root : Bytes) :
    Except Platform.Unsupported ServerLocation → Prop where
  | given {blanks rest : List String} {command : String} (hgiven : given = blanks ++ command :: rest)
      (hblanks : ∀ s ∈ blanks, Text.isBlank s.toList = true) (hcommand : Text.isBlank command.toList = false) :
      Chooses given p root (.ok ⟨Bytes.ofString command⟩)
  | shipped {path : Bytes} (hblank : ∀ s ∈ given, Text.isBlank s.toList = true) (h : Ships root p path) :
      Chooses given p root (.ok ⟨path⟩)
  | unsupported {name : String} (hblank : ∀ s ∈ given, Text.isBlank s.toList = true) (h : p = .unsupported name) :
      Chooses given p root (.error ⟨name⟩)

theorem bundled_path {directory file : String} (path : String) (hdirectory : Path.Leads (Bytes.ofString directory))
    (hfile : Path.isAbsolute (Bytes.ofString file) = false)
    (hpath : Bytes.ofString path = Bytes.ofString serverDirectory ++ Path.separator :: Bytes.ofString directory ++
      Path.separator :: Bytes.ofString file) (root : Bytes) :
    bundled root directory file = ⟨Path.joinText root path⟩ := by
  have hserver : Path.Leads (Bytes.ofString serverDirectory) := ⟨by decide, by decide, by decide⟩
  rw [bundled, Path.joinText, Path.joinText, Path.joinText, Path.join_assoc root, hserver.join_eq hdirectory.relative,
    Path.join_assoc root, (hserver.append hdirectory).join_eq hfile, Path.joinText, hpath]

/-- A platform has a shipped server unless it is unsupported. -/
theorem shipped_cases (p : Platform) (root : Bytes) :
    (∃ directory file, shipped p = .ok (directory, file) ∧ Ships root p (bundled root directory file).path) ∨
      ∃ name, p = .unsupported name ∧ shipped p = .error ⟨name⟩ := by
  cases p with
  | windows =>
    refine .inl ⟨_, _, rfl, ?_⟩
    rw [bundled_path "server/windows/asp-lsp.exe" ⟨by decide, by decide, by decide⟩ (by decide) (by decide)]
    exact .windows
  | macos =>
    refine .inl ⟨_, _, rfl, ?_⟩
    rw [bundled_path "server/macos/asp-lsp" ⟨by decide, by decide, by decide⟩ (by decide) (by decide)]
    exact .macos
  | linux =>
    refine .inl ⟨_, _, rfl, ?_⟩
    rw [bundled_path "server/linux/asp-lsp" ⟨by decide, by decide, by decide⟩ (by decide) (by decide)]
    exact .linux
  | unsupported name => exact .inr ⟨name, rfl, rfl⟩

theorem Ships.unique {root path path' : Bytes} {p : Platform} (h : Ships root p path) (h' : Ships root p path') :
    path = path' := by
  cases h <;> cases h' <;> rfl

/-- No root makes the path of a shipped server blank. -/
theorem Ships.isBlank {root path : Bytes} {p : Platform} (h : Ships root p path) :
    Text.isBlank (Utf8.decodeLossy path) = false := by
  have hmem : (0x61 : UInt8) ∈ path := by
    cases h <;> exact Path.mem_joinText (by decide) root
  have hshows : Path.Shows path := ⟨0x61, hmem, by decide, by decide⟩
  exact hshows.isBlank

theorem isBlank_ofString (s : String) :
    Text.isBlank (Utf8.decodeLossy (Bytes.ofString s)) = Text.isBlank s.toList := by
  rw [Bytes.ofString, Utf8.decodeLossy_encode]

theorem resolve_of_filled {command : String} (h : Text.isBlank command.toList = false) (p : Platform) (root : Bytes) :
    resolve p (some command) root = .ok ⟨Bytes.ofString command⟩ := by
  simp [resolve, ofPath, isBlank_ofString, h]

theorem resolve_none_cases (p : Platform) (root : Bytes) :
    (∃ path, Ships root p path ∧ resolve p none root = .ok ⟨path⟩) ∨
      ∃ name, p = .unsupported name ∧ resolve p none root = .error ⟨name⟩ := by
  rcases shipped_cases p root with ⟨directory, file, hshipped, hships⟩ | ⟨name, hp, hshipped⟩
  · exact .inl ⟨_, hships, by simp [resolve, hshipped]⟩
  · exact .inr ⟨name, hp, by simp [resolve, hshipped]⟩

theorem chooses_iff {given : List String} {p : Platform} {root : Bytes}
    {r : Except Platform.Unsupported ServerLocation} :
    Chooses given p root r ↔ r = resolve p (given.find? fun s => !Text.isBlank s.toList) root := by
  have hnone : (∀ s ∈ given, Text.isBlank s.toList = true) ↔
      (given.find? fun s => !Text.isBlank s.toList) = none := by
    simp
  constructor
  · intro h
    cases h with
    | @given blanks rest command hgiven hblanks hcommand =>
      have hfind : (given.find? fun s => !Text.isBlank s.toList) = some command := by
        apply List.find?_eq_some_iff_append.mpr
        refine ⟨by simp [hcommand], blanks, rest, hgiven, fun s hs => ?_⟩
        simp [hblanks s hs]
      rw [hfind, resolve_of_filled hcommand]
    | shipped hblank hships =>
      rw [hnone.mp hblank]
      rcases resolve_none_cases p root with ⟨path', hships', hresolve⟩ | ⟨name, rfl, -⟩
      · rw [hresolve, hships.unique hships']
      · cases hships
    | unsupported hblank hp =>
      subst hp
      rw [hnone.mp hblank]
      rfl
  · rintro rfl
    cases hfind : given.find? fun s => !Text.isBlank s.toList with
    | some command =>
      obtain ⟨hcommand, blanks, rest, hgiven, hblanks⟩ := List.find?_eq_some_iff_append.mp hfind
      have hfilled : Text.isBlank command.toList = false := by simpa using hcommand
      rw [resolve_of_filled hfilled]
      refine .given hgiven (fun s hs => ?_) hfilled
      simpa using hblanks s hs
    | none =>
      have hblank := hnone.mpr hfind
      rcases resolve_none_cases p root with ⟨path, hships, hresolve⟩ | ⟨name, hp, hresolve⟩
      · rw [hresolve]
        exact .shipped hblank hships
      · rw [hresolve]
        exact .unsupported hblank hp

theorem Chooses.error_iff {given : List String} {p : Platform} {root : Bytes}
    {r : Except Platform.Unsupported ServerLocation} (h : Chooses given p root r) :
    (∃ e, r = .error e) ↔ (∀ s ∈ given, Text.isBlank s.toList = true) ∧ ∃ name, p = .unsupported name := by
  cases h with
  | @given blanks rest command hgiven hblanks hcommand =>
    refine ⟨nofun, fun hfails => ?_⟩
    have hblank := hfails.1 command (hgiven ▸ List.mem_append_right blanks List.mem_cons_self)
    rw [hcommand] at hblank
    cases hblank
  | shipped hblank hships =>
    refine ⟨nofun, ?_⟩
    rintro ⟨-, name, rfl⟩
    cases hships
  | unsupported hblank hp => exact ⟨fun _ => ⟨hblank, _, hp⟩, fun _ => ⟨_, rfl⟩⟩

theorem Chooses.isBlank {given : List String} {p : Platform} {root : Bytes} {command : ServerLocation}
    (h : Chooses given p root (.ok command)) : Text.isBlank (Utf8.decodeLossy command.path) = false := by
  cases h with
  | given hgiven hblanks hcommand => rwa [isBlank_ofString]
  | shipped hblank hships => exact hships.isBlank

end ServerLocation

/-- An unsupported platform keeps its name as reported. -/
theorem Platform.eq_of_ofName {os name : String} (h : Platform.ofName os = .unsupported name) : name = os := by
  unfold Platform.ofName at h
  dsimp only at h
  split at h
  · cases h
  · split at h
    · cases h
    · split at h
      · cases h
      · cases h
        rfl

/-- The commands that the host's environment and a configuration give, in their order. -/
def Config.File.commands (f : Config.File) (environment : Bindings) (host : Host) : List String :=
  (host.text? "SERVER_PATH").toList ++
    ((f.server.bind Config.ServerSection.path).map (Config.expand environment)).toList

namespace Manager

theorem serverCommand_eq_resolve (m : Manager) (f : Config.File) (environment : Bindings) (host : Host) :
    serverCommand { m with settings := f.settings environment } host =
      ServerLocation.resolve host.platform
        ((f.commands environment host).find? fun s => !Text.isBlank s.toList) host.root := by
  have hfirst : ∀ (a b : Option String) (q : String → Bool),
      (a.filter q).or (b.filter q) = (a.toList ++ b.toList).find? q := by
    intro a b q
    cases a with
    | none => cases b <;> simp [Option.filter]
    | some s => cases hq : q s <;> cases b <;> simp [Option.filter, hq]
  unfold serverCommand Config.File.settings Config.File.expanded Config.File.commands commandVariable
  dsimp only
  rw [hfirst]

theorem command_by_precedence (m : Manager) (f : Config.File) (environment : Bindings) (host : Host) :
    let m := { m with settings := f.settings environment }
    let given := f.commands environment host
    (∀ r, m.serverCommand host = r ↔ ServerLocation.Chooses given host.platform host.root r) ∧
    ((∃ e, m.serverCommand host = .error e) ↔
      (∀ s ∈ given, Text.isBlank s.toList = true) ∧ ∃ name, host.platform = .unsupported name) ∧
    (∀ e os, m.serverCommand host = .error e → host.platform = Platform.ofName os → e.name = os) ∧
    (∀ command, m.serverCommand host = .ok command →
      Text.isBlank (Utf8.decodeLossy command.path) = false) ∧
    (m.state ≠ .running → ∀ attempt,
      (∀ command, m.serverCommand host = .ok command →
        ∃ executable, m.launches host attempt = [executable] ∧ executable.command = command) ∧
      ∀ e, m.serverCommand host = .error e → m.launches host attempt = []) := by
  intro m given
  have hchooses : ∀ r, m.serverCommand host = r ↔ ServerLocation.Chooses given host.platform host.root r := by
    intro r
    rw [ServerLocation.chooses_iff, serverCommand_eq_resolve]
    exact eq_comm
  have hcommand := (hchooses _).mp rfl
  refine ⟨hchooses, hcommand.error_iff, ?_, fun command h => ((hchooses _).mp h).isBlank, ?_⟩
  · intro e os he hos
    cases (hchooses _).mp he with
    | unsupported hblank hplatform => exact Platform.eq_of_ofName (hos.symm.trans hplatform)
  · intro hstate attempt
    refine ⟨fun command h => ?_, fun e he => launches_of_error host attempt hstate he⟩
    obtain ⟨executable, hlaunches, hinvokes⟩ := launches_invokes hstate attempt h
    exact ⟨executable, hlaunches, hinvokes.command⟩

end Manager

end LspClient
