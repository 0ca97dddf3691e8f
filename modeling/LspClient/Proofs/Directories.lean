import LspClient.FileTree
import LspClient.Proofs.PathComponents

/-!
# Directories and the files in them

What a tree holds is looked at through `node?`. In a sound tree everything stands in a directory, and making
directories and appending to files keeps it so. Once the directories of a path are made they can be walked through,
making them again changes nothing, and a file in the last of them can be opened unless its name or its path is
too long.
-/

namespace LspClient.FileTree

section Entries
variable (nodes : List (Location × Node)) (l : Location)

theorem any_key_iff : nodes.any (·.1 == l) = true ↔ nodes.lookup l ≠ none := by
  rw [Ne, List.lookup_eq_none_iff, List.any_eq_true]
  constructor
  · rintro ⟨entry, hentry, hkey⟩ hnone
    have hne := hnone entry hentry
    rw [beq_iff_eq.mp hkey, bne_self_eq_false] at hne
    cases hne
  · intro hsome
    apply Classical.byContradiction
    intro hnone
    apply hsome
    intro entry hentry
    rw [bne_iff_ne]
    rintro rfl
    exact hnone ⟨entry, hentry, beq_self_eq_true _⟩

theorem lookup_map_update (n : Node) (l' : Location) :
    (nodes.map fun entry => if entry.1 == l then (l, n) else entry).lookup l' =
      if l' = l then (nodes.lookup l).map fun _ => n else nodes.lookup l' := by
  induction nodes with
  | nil => simp
  | cons entry nodes ih =>
    obtain ⟨k, m⟩ := entry
    by_cases hk : k = l
    · subst hk
      by_cases hl : l' = k
      · simp [hl]
      · have hne : (l' == k) = false := by simpa using hl
        simp only [List.map_cons, beq_self_eq_true, if_true, List.lookup_cons, hne, ih, if_neg hl]
    · have hne : (k == l) = false := by simpa using hk
      have hne' : (l == k) = false := by simpa using Ne.symm hk
      simp only [List.map_cons, hne, Bool.false_eq_true, if_false, List.lookup_cons, ih, hne']
      by_cases hl : l' = l
      · simp [hl, hne']
      · simp [hl]

end Entries

theorem put_of_lookup_eq_none {t : FileTree} {l : Location} (h : t.nodes.lookup l = none) (n : Node) :
    t.put l n = ⟨t.nodes ++ [(l, n)]⟩ :=
  if_neg fun hany => (any_key_iff _ _).mp hany h

theorem put_of_lookup_ne_none {t : FileTree} {l : Location} (h : t.nodes.lookup l ≠ none) (n : Node) :
    t.put l n = ⟨t.nodes.map fun entry => if entry.1 == l then (l, n) else entry⟩ :=
  if_pos ((any_key_iff _ _).mpr h)

theorem node?_put (t : FileTree) {l : Location} (hl : l ≠ []) (n : Node) (l' : Location) :
    (t.put l n).node? l' = if l' = l then some n else t.node? l' := by
  unfold node?
  by_cases hroot : l' = []
  · rw [if_pos hroot, if_pos hroot, if_neg fun h => hl (h.symm.trans hroot)]
  · rw [if_neg hroot, if_neg hroot]
    cases hlookup : t.nodes.lookup l with
    | none =>
      rw [put_of_lookup_eq_none hlookup, List.lookup_append]
      by_cases h : l' = l
      · simp [h, hlookup]
      · have hne : (l' == l) = false := by simpa using h
        simp [h, List.lookup_cons, hne]
    | some m =>
      rw [put_of_lookup_ne_none (by simp [hlookup]), lookup_map_update, hlookup, Option.map_some]

@[simp] theorem node?_put_self (t : FileTree) (l : Location) (part : Bytes) (n : Node) :
    (t.put (l ++ [part]) n).node? (l ++ [part]) = some n := by
  rw [node?_put t (by simp), if_pos rfl]

theorem node?_put_of_ne (t : FileTree) {l l' : Location} {part : Bytes} (h : l' ≠ l ++ [part]) (n : Node) :
    (t.put (l ++ [part]) n).node? l' = t.node? l' := by
  rw [node?_put t (by simp), if_neg h]

/-- Every location is listed once, the root is not, and whatever stands somewhere stands in a directory. -/
structure Sound (t : FileTree) : Prop where
  distinct : (t.nodes.map Prod.fst).Nodup
  unrooted : [] ∉ t.nodes.map Prod.fst
  parents : ∀ l part n, t.node? (l ++ [part]) = some n → t.node? l = some .directory

theorem sound_empty : empty.Sound := by
  refine ⟨List.nodup_nil, List.not_mem_nil, ?_⟩
  intro l part n hn
  rw [node?, if_neg (by simp)] at hn
  cases hn

namespace Sound
variable {t : FileTree} (h : t.Sound)
include h

theorem node?_dropLast {l : Location} (hl : t.node? l = some .directory) : t.node? l.dropLast = some .directory := by
  rcases List.eq_nil_or_concat l with rfl | ⟨front, part, rfl⟩
  · exact hl
  · rw [List.concat_eq_append] at hl ⊢
    rw [List.dropLast_concat]
    exact h.parents front part _ hl

/-- Whatever stands below a location makes it a directory. -/
theorem node?_of_below {l rest : Location} {n : Node} (hrest : rest ≠ []) (hn : t.node? (l ++ rest) = some n) :
    t.node? l = some .directory := by
  induction rest generalizing l with
  | nil => exact absurd rfl hrest
  | cons part rest ih =>
    rw [← List.singleton_append, ← List.append_assoc] at hn
    by_cases hlast : rest = []
    · rw [hlast, List.append_nil] at hn
      exact h.parents l part n hn
    · exact h.parents l part _ (ih hlast hn)

theorem mem_nodes_iff {l : Location} {n : Node} : (l, n) ∈ t.nodes ↔ l ≠ [] ∧ t.node? l = some n := by
  constructor
  · intro hmem
    have hl : l ≠ [] := by
      rintro rfl
      exact h.unrooted (List.mem_map.mpr ⟨_, hmem, rfl⟩)
    refine ⟨hl, ?_⟩
    obtain ⟨front, back, hnodes⟩ := List.append_of_mem hmem
    rw [node?, if_neg hl]
    apply List.lookup_eq_some_iff.mpr
    refine ⟨front, back, hnodes, fun entry hentry => ?_⟩
    have hdistinct := h.distinct
    rw [hnodes, List.map_append, List.nodup_append] at hdistinct
    rw [bne_iff_ne]
    exact (hdistinct.2.2 entry.1 (List.mem_map.mpr ⟨entry, hentry, rfl⟩) l (by simp)).symm
  · rintro ⟨hl, hnode⟩
    rw [node?, if_neg hl] at hnode
    obtain ⟨front, back, hnodes, -⟩ := List.lookup_eq_some_iff.mp hnode
    rw [hnodes]
    simp

/-- A node may be put into a directory unless it takes the place of one. -/
theorem put {l : Location} {part : Bytes} (hl : t.node? l = some .directory)
    (hfree : t.node? (l ++ [part]) ≠ some .directory) (n : Node) : (t.put (l ++ [part]) n).Sound := by
  have hne : l ++ [part] ≠ [] := by simp
  have hkeys : ((t.put (l ++ [part]) n).nodes.map Prod.fst).Nodup ∧
      [] ∉ (t.put (l ++ [part]) n).nodes.map Prod.fst := by
    cases hlookup : t.nodes.lookup (l ++ [part]) with
    | none =>
      have hnew : l ++ [part] ∉ t.nodes.map Prod.fst := by
        intro hmem
        obtain ⟨entry, hentry, hkey⟩ := List.mem_map.mp hmem
        have hother := List.lookup_eq_none_iff.mp hlookup entry hentry
        rw [hkey, bne_self_eq_false] at hother
        cases hother
      rw [put_of_lookup_eq_none hlookup, List.map_append]
      refine ⟨List.nodup_append.mpr ⟨h.distinct, by simp, ?_⟩, ?_⟩
      · rintro k hk k' hk' rfl
        have hkey : k = l ++ [part] := List.mem_singleton.mp hk'
        exact hnew (hkey ▸ hk)
      · simpa using h.unrooted
    | some m =>
      have hsame : (t.nodes.map fun entry => if entry.1 == l ++ [part] then (l ++ [part], n) else entry).map Prod.fst =
          t.nodes.map Prod.fst := by
        rw [List.map_map]
        apply List.map_congr_left
        intro entry _
        rw [Function.comp_apply]
        split
        · rename_i hkey
          exact (beq_iff_eq.mp hkey).symm
        · rfl
      rw [put_of_lookup_ne_none (by simp [hlookup]), hsame]
      exact ⟨h.distinct, h.unrooted⟩
  refine ⟨hkeys.1, hkeys.2, ?_⟩
  intro k child m hm
  have hself : l ≠ l ++ [part] := by simp
  by_cases hchild : k ++ [child] = l ++ [part]
  · rw [(List.append_inj' hchild rfl).1, node?_put_of_ne t hself, hl]
  · rw [node?_put_of_ne t hchild] at hm
    have hk := h.parents k child m hm
    have hkept : k ≠ l ++ [part] := by
      rintro rfl
      exact hfree hk
    rw [node?_put_of_ne t hkept, hk]

end Sound

/-- One tree has all that another one has. -/
def Extends (t t' : FileTree) : Prop :=
  ∀ l n, t.node? l = some n → t'.node? l = some n

theorem extends_put {t : FileTree} {l : Location} {part : Bytes} (h : t.node? (l ++ [part]) = none) (n : Node) :
    t.Extends (t.put (l ++ [part]) n) := by
  intro k m hm
  have hk : k ≠ l ++ [part] := by
    rintro rfl
    rw [h] at hm
    cases hm
  rw [node?_put_of_ne t hk, hm]

/-- Where one part of a path leads to. -/
def descend (base : Location) (part : Bytes) : Location :=
  if part = [0x2E, 0x2E] then base.dropLast else base ++ [part]

/-- Where the parts of a path lead to. -/
def place (base : Location) (parts : List Bytes) : Location :=
  parts.foldl descend base

/-- The parts lead through directories to a directory, and no name among them is too long. -/
def Passes (t : FileTree) (base : Location) : List Bytes → Prop
  | [] => t.node? base = some .directory
  | part :: rest =>
    t.node? base = some .directory ∧ part.length ≤ maxNameBytes ∧ Passes t (descend base part) rest

namespace Passes
variable {t : FileTree} {base : Location} {parts : List Bytes}

theorem node?_base (h : t.Passes base parts) : t.node? base = some .directory := by
  cases parts with
  | nil => exact h
  | cons part rest => exact h.1

theorem node?_place (h : t.Passes base parts) : t.node? (place base parts) = some .directory := by
  induction parts generalizing base with
  | nil => exact h
  | cons part rest ih => exact ih h.2.2

theorem mono {t' : FileTree} (h : t.Passes base parts)
    (hkeeps : ∀ l, t.node? l = some .directory → t'.node? l = some .directory) : t'.Passes base parts := by
  induction parts generalizing base with
  | nil => exact hkeeps base h
  | cons part rest ih => exact ⟨hkeeps base h.1, h.2.1, ih h.2.2⟩

theorem walk_append (h : t.Passes base parts) (rest : List Bytes) :
    t.walk base (parts ++ rest) = t.walk (place base parts) rest := by
  induction parts generalizing base with
  | nil => rfl
  | cons part parts ih =>
    obtain ⟨hbase, hlength, hparts⟩ := h
    rw [List.cons_append, walk, hbase]
    simp only [if_neg (Nat.not_lt.mpr hlength)]
    rw [place, List.foldl_cons, ← place, ← ih hparts, descend]
    split <;> rfl

theorem makeAll_eq (h : t.Passes base parts) : t.makeAll base parts = .ok t := by
  induction parts generalizing base with
  | nil => rfl
  | cons part parts ih =>
    obtain ⟨-, hlength, hparts⟩ := h
    rw [makeAll, if_neg (Nat.not_lt.mpr hlength)]
    unfold descend at hparts
    split
    · rename_i hup
      rw [if_pos hup] at hparts
      exact ih hparts
    · rename_i hdown
      rw [if_neg hdown] at hparts
      simp only [hparts.node?_base]
      exact ih hparts

end Passes

/-- Making directories goes on from the directories made so far: the tree stays sound, keeps what it has, and can be
walked through afterwards. -/
theorem makeAll_passes {t t' : FileTree} {base : Location} {parts : List Bytes} (h : t.Sound)
    (hbase : t.node? base = some .directory) (hmade : t.makeAll base parts = .ok t') :
    t'.Sound ∧ t.Extends t' ∧ t'.Passes base parts := by
  induction parts generalizing t base with
  | nil =>
    cases hmade
    exact ⟨h, fun _ _ => id, hbase⟩
  | cons part parts ih =>
    rw [makeAll] at hmade
    split at hmade
    · cases hmade
    rename_i hlength
    have hlength := Nat.le_of_not_lt hlength
    split at hmade
    · rename_i hup
      obtain ⟨hsound, hextends, hpasses⟩ := ih h (h.node?_dropLast hbase) hmade
      exact ⟨hsound, hextends, hextends _ _ hbase, hlength, by rwa [descend, if_pos hup]⟩
    · rename_i hdown
      dsimp only at hmade
      split at hmade
      · rename_i hthere
        obtain ⟨hsound, hextends, hpasses⟩ := ih h hthere hmade
        exact ⟨hsound, hextends, hextends _ _ hbase, hlength, by rwa [descend, if_neg hdown]⟩
      · cases hmade
      · rename_i hmissing
        have hput : (t.put (base ++ [part]) .directory).Sound := h.put hbase (by simp [hmissing]) .directory
        obtain ⟨hsound, hextends, hpasses⟩ := ih hput (node?_put_self t base part .directory) hmade
        have hextends : t.Extends t' := fun l n hn => hextends l n (extends_put hmissing .directory l n hn)
        exact ⟨hsound, hextends, hextends _ _ hbase, hlength, by rwa [descend, if_neg hdown]⟩

/-- Where a path begins. -/
def origin (cwd : Location) (p : Bytes) : Location :=
  if Path.isAbsolute p then [] else cwd

/-- Where a path leads to. -/
def location (cwd : Location) (p : Bytes) : Location :=
  place (origin cwd p) (steps p)

theorem createDirectories_passes {t t' : FileTree} {cwd : Location} {p : Bytes} (h : t.Sound)
    (hcwd : t.node? cwd = some .directory) (hmade : t.createDirectories cwd p = .ok t') :
    p.length ≤ maxPathBytes ∧ t'.Sound ∧ t.Extends t' ∧ t'.Passes (origin cwd p) (steps p) := by
  unfold createDirectories at hmade
  split at hmade
  · cases hmade
  rename_i hlength
  have horigin : t.node? (origin cwd p) = some .directory := by
    unfold origin
    split
    · rfl
    · exact hcwd
  exact ⟨Nat.le_of_not_lt hlength, makeAll_passes h horigin hmade⟩

theorem Passes.createDirectories_eq {t : FileTree} {cwd : Location} {p : Bytes}
    (h : t.Passes (origin cwd p) (steps p)) (hlength : p.length ≤ maxPathBytes) :
    t.createDirectories cwd p = .ok t := by
  rw [createDirectories, if_neg (Nat.not_lt.mpr hlength)]
  exact h.makeAll_eq

/-- Neither the name nor the path of a file is longer than the system takes. -/
def Fits (p q : Bytes) : Prop :=
  q.length ≤ maxNameBytes ∧ (Path.join p q).length ≤ maxPathBytes

instance (p q : Bytes) : Decidable (Fits p q) :=
  inferInstanceAs (Decidable (_ ∧ _))

/-- The name of something within a directory. -/
structure IsEntry (q : Bytes) : Prop extends Path.IsName q where
  within : q ≠ [0x2E, 0x2E]

section Join
variable {t : FileTree} {cwd : Location} {p q : Bytes} (hp : t.Passes (origin cwd p) (steps p)) (hq : IsEntry q)
include hp hq

theorem locate_join (hfits : Fits p q) : t.locate cwd (Path.join p q) = .ok (location cwd p ++ [q]) := by
  have hname := hq.toIsName
  have hstep : t.walk (location cwd p) [q] = .ok (location cwd p ++ [q]) := by
    rw [walk, location, hp.node?_place]
    simp only [if_neg (Nat.not_lt.mpr hfits.1), if_neg hq.within]
    rfl
  rw [locate, if_neg (hname.join_ne_nil p), if_neg (Nat.not_lt.mpr hfits.2), Path.isAbsolute_join hname.isAbsolute_eq,
    steps, Path.components_join hname.isAbsolute_eq, hname.components_eq]
  exact (hp.walk_append [q]).trans hstep

theorem locate_join_of_not_fits (hfits : ¬ Fits p q) : t.locate cwd (Path.join p q) = .error .nameTooLong := by
  have hname := hq.toIsName
  rw [locate, if_neg (hname.join_ne_nil p)]
  split
  · rfl
  · rename_i hpath
    have hlong : maxNameBytes < q.length := Nat.lt_of_not_le fun h => hfits ⟨h, Nat.le_of_not_lt hpath⟩
    rw [Path.isAbsolute_join hname.isAbsolute_eq, steps, Path.components_join hname.isAbsolute_eq, hname.components_eq]
    refine (hp.walk_append [q]).trans ?_
    rw [walk, hp.node?_place]
    exact if_pos hlong

omit hp in
theorem asksDirectory_join : asksDirectory (Path.join p q) = false := by
  have hname := hq.toIsName
  have hlast : q.getLast? ≠ some Path.separator := fun h => hname.whole (List.mem_of_getLast? h)
  simp [asksDirectory, hname.getLast?_join, hname.getLast?_split_join, hlast, hname.undotted]

/-- Appending makes the file or lengthens it. -/
theorem append_join (hfits : Fits p q) {content : Option Bytes}
    (hcontent : t.node? (location cwd p ++ [q]) = content.map (.file · false)) (bytes : Bytes) :
    t.append cwd (Path.join p q) bytes =
      .ok (t.put (location cwd p ++ [q]) (.file (content.getD [] ++ bytes) false)) := by
  rw [append, target, locate_join hp hq hfits]
  simp only [hcontent, asksDirectory_join hq]
  cases content <;> rfl

theorem append_join_of_not_fits (hfits : ¬ Fits p q) (bytes : Bytes) :
    t.append cwd (Path.join p q) bytes = .error .nameTooLong := by
  rw [append, target, locate_join_of_not_fits hp hq hfits]

end Join

/-- How a file below a location is called there. -/
def relativeName (rest : Location) : Bytes :=
  (rest.flatMap fun part => Path.separator :: part).drop 1

/-- The file that an entry is, as seen from a location. -/
def fileSeen? (l : Location) (entry : Location × Node) : Option (Bytes × Bytes) :=
  match entry.2 with
  | .file content _ => if l.isPrefixOf entry.1 then some (relativeName (entry.1.drop l.length), content) else none
  | .directory => none

theorem fileSeen?_eq_some_iff {l : Location} {entry : Location × Node} {name content : Bytes} :
    fileSeen? l entry = some (name, content) ↔
      ∃ rest executable, entry = (l ++ rest, .file content executable) ∧ name = relativeName rest := by
  obtain ⟨k, n⟩ := entry
  cases n with
  | directory => simp [fileSeen?]
  | file bytes executable =>
    simp only [fileSeen?, Option.ite_none_right_eq_some, List.isPrefixOf_iff_prefix, Option.some.injEq, Prod.mk.injEq,
      Node.file.injEq]
    constructor
    · rintro ⟨⟨rest, rfl⟩, rfl, rfl⟩
      exact ⟨rest, executable, ⟨rfl, rfl, rfl⟩, by rw [List.drop_left]⟩
    · rintro ⟨rest, _, ⟨rfl, rfl, -⟩, rfl⟩
      exact ⟨⟨rest, rfl⟩, by rw [List.drop_left], rfl⟩

theorem filesBelow_perm (t : FileTree) (l : Location) : (t.filesBelow l).Perm (t.nodes.filterMap (fileSeen? l)) :=
  List.mergeSort_perm _ _

namespace Sound
variable {t : FileTree} (h : t.Sound) {l : Location}
include h

theorem mem_filesBelow_iff {name content : Bytes} :
    (name, content) ∈ t.filesBelow l ↔
      ∃ rest executable, t.node? (l ++ rest) = some (.file content executable) ∧ name = relativeName rest := by
  rw [(filesBelow_perm t l).mem_iff, List.mem_filterMap]
  constructor
  · rintro ⟨entry, hentry, hseen⟩
    obtain ⟨rest, executable, rfl, hname⟩ := fileSeen?_eq_some_iff.mp hseen
    exact ⟨rest, executable, (h.mem_nodes_iff.mp hentry).2, hname⟩
  · rintro ⟨rest, executable, hnode, hname⟩
    have hne : l ++ rest ≠ [] := by
      intro hroot
      rw [hroot] at hnode
      cases hnode
    exact ⟨_, h.mem_nodes_iff.mpr ⟨hne, hnode⟩, fileSeen?_eq_some_iff.mpr ⟨rest, executable, rfl, hname⟩⟩

/-- Files that stand in a directory itself go by different names. -/
theorem nodup_filesBelow
    (hflat : ∀ rest content executable, t.node? (l ++ rest) = some (.file content executable) → ∃ q, rest = [q]) :
    ((t.filesBelow l).map Prod.fst).Nodup := by
  rw [((filesBelow_perm t l).map Prod.fst).nodup_iff, List.nodup_iff_pairwise_ne, List.pairwise_map,
    List.pairwise_filterMap]
  have hdistinct := List.pairwise_map.mp (List.nodup_iff_pairwise_ne.mp h.distinct)
  refine hdistinct.imp_of_mem ?_
  rintro entry entry' hentry hentry' hne ⟨name, content⟩ hseen ⟨name', content'⟩ hseen' rfl
  obtain ⟨rest, executable, rfl, hname⟩ := fileSeen?_eq_some_iff.mp hseen
  obtain ⟨rest', executable', rfl, hname'⟩ := fileSeen?_eq_some_iff.mp hseen'
  obtain ⟨q, rfl⟩ := hflat _ _ _ (h.mem_nodes_iff.mp hentry).2
  obtain ⟨q', rfl⟩ := hflat _ _ _ (h.mem_nodes_iff.mp hentry').2
  apply hne
  have hq : q = q' := by simpa [relativeName] using hname.symm.trans hname'
  rw [hq]

end Sound

end LspClient.FileTree
