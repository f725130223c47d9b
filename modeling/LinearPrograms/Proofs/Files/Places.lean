import LinearPrograms.Files.System
import LinearPrograms.Proofs.Action.Computation

/-!
# Where paths lead

Writing and deleting files leaves the folders as they are, and only folders decide where a path
leads (`SameFolders`, `locate_eq_ok`). What reading a path answers is therefore the same before and
after, unless the path leads to the file that was written or deleted (`isThere_congr`,
`read_congr`).

In a folder that holds nothing, each name without a separator leads to a place of its own, if its
characters can stand in a path and it is not too long (`locate_of_fits`).
-/

namespace LinearPrograms

/-- Once the entries of a key are gone, what is found under the other keys is the same. -/
theorem find?_filter_key {κ γ : Type} [DecidableEq κ] (entries : List (κ × γ)) (key q : κ) :
    ((entries.filter fun entry => entry.1 ≠ key).find? fun entry => entry.1 = q) =
      if q = key then none else entries.find? fun entry => entry.1 = q := by
  rw [List.find?_filter]
  split
  · next h =>
    rw [List.find?_eq_none]
    simp [h]
  · next h =>
    congr 1
    funext entry
    by_cases hentry : entry.1 = q
    · simp [hentry, h]
    · simp [hentry]

namespace FileSystem

variable {α : Type} {s t : FileSystem α} {place q : List Text} {p : Path}

/-! ## Nodes after a change -/

theorem node?_put_self (s : FileSystem α) (hplace : place ≠ []) (n : Node α) :
    (s.put place n).node? place = some n := by
  simp [node?, put, hplace]

theorem node?_put_of_ne (s : FileSystem α) (hq : q ≠ place) (n : Node α) :
    (s.put place n).node? q = s.node? q := by
  simp only [node?, put, List.find?_cons, Ne.symm hq, decide_false, find?_filter_key, if_neg hq]

theorem node?_remove_self (s : FileSystem α) (hplace : place ≠ []) :
    (s.remove place).node? place = none := by
  simp [node?, remove, hplace]

theorem node?_remove_of_ne (s : FileSystem α) (hq : q ≠ place) :
    (s.remove place).node? q = s.node? q := by
  simp only [node?, remove, find?_filter_key, if_neg hq]

/-- The root is a folder, so what is no folder stands elsewhere. -/
theorem ne_root (h : s.node? place ≠ some .folder) : place ≠ [] := by
  rintro rfl
  exact h rfl

/-! ## The same folders -/

/-- Two file systems with the same folders, the current one included. -/
structure SameFolders (s t : FileSystem α) : Prop where
  here : t.here = s.here
  folders : ∀ q, t.node? q = some .folder ↔ s.node? q = some .folder

theorem SameFolders.refl (s : FileSystem α) : SameFolders s s := ⟨rfl, fun _ => Iff.rfl⟩

theorem SameFolders.trans {u : FileSystem α} (h : SameFolders s t) (h' : SameFolders t u) :
    SameFolders s u :=
  ⟨h'.here.trans h.here, fun q => (h'.folders q).trans (h.folders q)⟩

theorem sameFolders_put (h : s.node? place ≠ some .folder) (contents : α) :
    SameFolders s (s.put place (.file contents)) := by
  refine ⟨rfl, fun q => ?_⟩
  by_cases hq : q = place
  · rw [hq, node?_put_self s (ne_root h)]
    simp [h]
  · rw [node?_put_of_ne s hq]

theorem sameFolders_remove (h : s.node? place ≠ some .folder) :
    SameFolders s (s.remove place) := by
  refine ⟨rfl, fun q => ?_⟩
  by_cases hq : q = place
  · rw [hq, node?_remove_self s (ne_root h)]
    simp [h]
  · rw [node?_remove_of_ne s hq]

/-- A flaw without the difference between nothing and a file on the way. -/
def blurred : PathFlaw → PathFlaw
  | .notFolder => .missing
  | flaw => flaw

theorem follow_congr (h : SameFolders s t) :
    ∀ (names : List Text) (place : List Text),
      (t.follow place names).mapError blurred = (s.follow place names).mapError blurred
  | [], _ => rfl
  | name :: rest, place => by
    rw [follow, follow]
    cases hs : s.node? place with
    | none =>
      cases ht : t.node? place with
      | none => rfl
      | some node =>
        cases node with
        | file contents => rfl
        | folder =>
          rw [h.folders, hs] at ht
          cases ht
    | some node =>
      cases node with
      | folder =>
        rw [(h.folders place).2 hs]
        simp only
        split
        · exact follow_congr h rest _
        · split
          · rfl
          · exact follow_congr h rest _
      | file contents =>
        cases ht : t.node? place with
        | none => rfl
        | some node =>
          cases node with
          | file contents => rfl
          | folder =>
            rw [h.folders, hs] at ht
            cases ht

theorem locate_congr (h : SameFolders s t) (p : Path) :
    (t.locate p).mapError blurred = (s.locate p).mapError blurred := by
  unfold locate
  split
  · rfl
  · rw [h.here]
    exact follow_congr h _ _

/-- Where a path leads depends on the folders only. -/
theorem locate_eq_ok (h : SameFolders s t) : t.locate p = .ok place ↔ s.locate p = .ok place := by
  rw [← Computation.mapError_eq_ok (f := blurred), locate_congr h, Computation.mapError_eq_ok]

/-- Where nothing but the end of a path can have changed, reading it is as before. -/
theorem isThere_congr (h : SameFolders s t)
    (hnode : ∀ place, s.locate p = .ok place → t.node? place = s.node? place) :
    t.isThere p = s.isThere p := by
  have hlocate := locate_congr h p
  unfold isThere
  cases hs : s.locate p with
  | ok place =>
    rw [(locate_eq_ok h).2 hs]
    simp only [hnode place hs]
  | error flaw =>
    cases ht : t.locate p with
    | ok place =>
      rw [(locate_eq_ok h).1 ht] at hs
      cases hs
    | error flaw' =>
      rw [hs, ht] at hlocate
      cases flaw <;> cases flaw' <;> simp_all [Except.mapError, blurred]

theorem read_congr (h : SameFolders s t) (hplace : s.locate p = .ok place)
    (hnode : t.node? place = s.node? place) : t.read p = s.read p := by
  rw [read, read, (locate_eq_ok h).2 hplace, hplace]
  simp only [hnode]

theorem target_eq_ok :
    s.target p = .ok place ↔ s.locate p = .ok place ∧ s.node? place ≠ some .folder := by
  unfold target
  cases s.locate p with
  | error flaw => simp
  | ok q =>
    simp only [Except.ok.injEq]
    split
    · next hfolder =>
      refine iff_of_false (fun h => by cases h) ?_
      rintro ⟨rfl, hnode⟩
      exact hnode hfolder
    · next hnode =>
      rw [Except.ok.injEq]
      refine ⟨?_, And.left⟩
      rintro rfl
      exact ⟨rfl, hnode⟩

end FileSystem

/-! ## Names in a folder -/

theorem Text.join_concat (separator : String) (t : Text) :
    ∀ ts : List Text, ts ≠ [] →
      (Text.join separator (ts ++ [t])).points =
        (Text.join separator ts).points ++ (Text.ofString separator).points ++ t.points
  | [], h => absurd rfl h
  | [u], _ => by simp [Text.join]
  | u :: v :: rest, _ => by
    have ih := Text.join_concat separator t (v :: rest) (List.cons_ne_nil _ _)
    simp only [Text.join] at ih ⊢
    simp only [List.cons_append, List.map_cons, List.intersperse_cons_cons,
      List.flatten_cons] at ih ⊢
    rw [ih]
    simp only [List.append_assoc]

namespace Path

/-- The text is a single name, which leads from a folder to something inside it. -/
structure IsName (t : Text) : Prop where
  ne_empty : t.points ≠ []
  ne_dot : t ≠ dot
  ne_dots : t ≠ dots
  not_mem : separator ∉ t.points

theorem segments_of_not_mem :
    ∀ (points current : List Nat), separator ∉ points →
      segments current points = [⟨current.reverse ++ points⟩]
  | [], current, _ => by simp [segments]
  | c :: rest, current, h => by
    rw [List.mem_cons, not_or] at h
    rw [segments, if_neg (Ne.symm h.1), segments_of_not_mem rest _ h.2]
    simp

variable {t : Text} {folder : Path}

theorem ofText_of_isName (h : IsName t) : ofText t = ⟨⟨[]⟩, [t]⟩ := by
  have hroot : t.points.takeWhile (· == separator) = [] := by
    cases hpoints : t.points with
    | nil => rfl
    | cons c rest =>
      have hc : c ≠ separator := fun hc => h.not_mem (by simp [hpoints, hc])
      simp [hc]
  have hempty : t.isEmpty = false := by simpa [Text.isEmpty] using h.ne_empty
  rw [ofText, rootOf, hroot, segments_of_not_mem _ _ h.not_mem]
  simp [hempty, h.ne_dot]

theorem append_of_isName (h : IsName t) :
    folder.append (ofText t) = ⟨folder.root, folder.names ++ [t]⟩ := by
  rw [ofText_of_isName h, append]
  rfl

theorem points_toText (h : folder.root.points ≠ [] ∨ folder.names ≠ []) :
    folder.toText.points = folder.root.points ++ (Text.join "/" folder.names).points := by
  rw [toText, if_neg]
  · rfl
  · rcases h with h | h <;> simp [Text.isEmpty, h]

/-- A path to a name in a folder holds the characters of both, and separators. -/
theorem mem_toText_append (h : IsName t) {c : Nat}
    (hc : c ∈ (folder.append (ofText t)).toText.points) :
    c ∈ folder.toText.points ∨ c = separator ∨ c ∈ t.points := by
  rw [append_of_isName h, points_toText (.inr (List.concat_ne_nil _ _)), List.mem_append] at hc
  simp only at hc
  by_cases hnames : folder.names = []
  · rw [hnames] at hc
    rcases hc with hc | hc
    · rw [points_toText (.inl (List.ne_nil_of_mem hc))]
      exact .inl (List.mem_append_left _ hc)
    · exact .inr (.inr (by simpa [Text.join] using hc))
  · rw [Text.join_concat "/" t _ hnames] at hc
    rw [points_toText (.inr hnames)]
    have hseparator : (Text.ofString "/").points = [separator] := rfl
    simp only [hseparator, List.mem_append, List.mem_singleton] at hc ⊢
    rcases hc with hc | (hc | hc) | hc
    · exact .inl (.inl hc)
    · exact .inl (.inr hc)
    · exact .inr (.inl hc)
    · exact .inr (.inr hc)

end Path

namespace FileSystem

variable {α : Type} {s : FileSystem α} {place : List Text} {folder : Path} {t : Text}

theorem unencodable?_eq_none :
    ∀ {position : Nat} {points : List Nat}, FileName.unencodable? position points = none ↔
      ∀ c ∈ points, FileName.isSurrogate c = true → FileName.isEscape c = true
  | _, [] => by simp [FileName.unencodable?]
  | position, c :: rest => by
    rw [FileName.unencodable?]
    split
    · next h =>
      simp only [Bool.and_eq_true, Bool.not_eq_true'] at h
      simp [h]
    · next h =>
      rw [unencodable?_eq_none]
      simp only [Bool.and_eq_true, Bool.not_eq_true', not_and, Bool.not_eq_false] at h
      simp only [List.mem_cons, forall_eq_or_imp]
      exact ⟨fun hrest => ⟨h, hrest⟩, And.right⟩

/-- A text can stand for a path if its characters can, none is the octet zero, and it is not too
long. -/
theorem spellingFlaw?_eq_none :
    spellingFlaw? t = none ↔
      (∀ c ∈ t.points, c ≠ 0 ∧ (FileName.isSurrogate c = true → FileName.isEscape c = true)) ∧
        (FileName.octets t).length < pathLimit := by
  unfold spellingFlaw?
  cases h : FileName.unencodable? 0 t.points with
  | some flaw =>
    refine iff_of_false (fun h => by cases h) fun hright => ?_
    rw [unencodable?_eq_none.2 fun c hc => (hright.1 c hc).2] at h
    cases h
  | none =>
    have hencoded := unencodable?_eq_none.1 h
    simp only
    split
    · next hzero =>
      refine iff_of_false (fun h => by cases h) fun hright => ?_
      exact (hright.1 0 (by simpa using hzero)).1 rfl
    · next hzero =>
      have hnonzero : ∀ c ∈ t.points, c ≠ 0 := by
        rintro c hc rfl
        exact hzero (by simpa using hc)
      split
      · next hlong => exact iff_of_false (fun h => by cases h) fun hright => by omega
      · next hshort =>
        exact iff_of_true rfl ⟨fun c hc => ⟨hnonzero c hc, hencoded c hc⟩, by omega⟩

/-- The name of a file fits into a folder: each character is one, and neither the name nor the path
to it is too long. -/
structure Fits (folder : Path) (t : Text) : Prop where
  characters : ∀ c ∈ t.points, c ≠ 0 ∧ FileName.isSurrogate c = false
  name : (FileName.octets t).length ≤ nameLimit
  path : (FileName.octets (folder.append (.ofText t)).toText).length < pathLimit

theorem isSurrogate_of_isEscape {c : Nat} (h : FileName.isEscape c = true) :
    FileName.isSurrogate c = true := by
  simp only [FileName.isEscape, FileName.isSurrogate, Bool.and_eq_true, decide_eq_true_eq] at h ⊢
  omega

theorem settled_of_characters (h : ∀ c ∈ t.points, c ≠ 0 ∧ FileName.isSurrogate c = false) :
    FileName.settled t = t := by
  rw [FileName.settled, if_neg]
  rw [List.any_eq_true]
  rintro ⟨c, hc, hescape⟩
  have hsurrogate := isSurrogate_of_isEscape hescape
  rw [(h c hc).2] at hsurrogate
  cases hsurrogate

theorem follow_append (s : FileSystem α) (more : List Text) :
    ∀ (names place : List Text),
      s.follow place (names ++ more) = s.follow place names >>= fun q => s.follow q more
  | [], _ => rfl
  | name :: rest, place => by
    rw [List.cons_append, follow, follow]
    cases s.node? place with
    | none => rfl
    | some node =>
      cases node with
      | file contents => rfl
      | folder =>
        simp only
        split
        · exact follow_append s more rest _
        · split
          · rfl
          · exact follow_append s more rest _

/-- The name of a file that fits leads from a folder to a place under that name. -/
theorem locate_of_fits (hfolder : s.locate folder = .ok place)
    (hnode : s.node? place = some .folder) (hname : Path.IsName t) (hfits : Fits folder t) :
    s.locate (folder.append (.ofText t)) = .ok (place ++ [t]) := by
  unfold locate at hfolder
  split at hfolder
  · cases hfolder
  · next hspelled =>
    have hflaw : spellingFlaw? (folder.append (.ofText t)).toText = none := by
      refine spellingFlaw?_eq_none.2 ⟨fun c hc => ?_, hfits.path⟩
      rcases Path.mem_toText_append hname hc with hc | rfl | hc
      · exact (spellingFlaw?_eq_none.1 hspelled).1 c hc
      · decide
      · have hcharacter := hfits.characters c hc
        exact ⟨hcharacter.1, fun h => by rw [hcharacter.2] at h; cases h⟩
    have hend : s.follow place [t] = .ok (place ++ [t]) := by
      rw [follow, hnode]
      simp only [if_neg hname.ne_dots, if_neg (Nat.not_lt.2 hfits.name),
        settled_of_characters hfits.characters, follow]
    rw [locate, hflaw, Path.append_of_isName hname]
    simp only
    rw [follow_append, hfolder]
    exact hend

end FileSystem

end LinearPrograms
