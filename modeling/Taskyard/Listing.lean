/-
This file holds listings: items under keys, in the order in which the keys came.
A key that is put again keeps its place. What a listing has under a key says all
that matters of it, except for the order; the statements say what every change
does to that.
-/

namespace Taskyard

/-- Items under keys. -/
abbrev Listing (Key Item : Type) := List (Key × Item)

namespace Listing

variable {Key Item : Type} [DecidableEq Key]

/-- The item under a key. -/
def get? (key : Key) : Listing Key Item → Option Item
  | [] => none
  | (found, item) :: rest => if found = key then some item else get? key rest

def keys (listing : Listing Key Item) : List Key := listing.map Prod.fst

/-- Change the item under a key. -/
def amend (key : Key) (change : Item → Item) (listing : Listing Key Item) : Listing Key Item :=
  listing.map fun entry => if entry.1 = key then (entry.1, change entry.2) else entry

/-- Put an item under a key, at the place of the key or at the end. -/
def put (key : Key) (item : Item) (listing : Listing Key Item) : Listing Key Item :=
  if (get? key listing).isSome then amend key (fun _ => item) listing else listing ++ [(key, item)]

/-- Remove a key. -/
def remove (key : Key) (listing : Listing Key Item) : Listing Key Item :=
  listing.filter fun entry => entry.1 ≠ key

/-! ### What is under a key -/

theorem get?_isSome_iff {key : Key} {listing : Listing Key Item} :
    (get? key listing).isSome ↔ key ∈ keys listing := by
  induction listing with
  | nil => simp [get?, keys]
  | cons entry rest inductionHypothesis =>
    by_cases here : entry.1 = key
    · simp [get?, keys, here]
    · have apart : key ≠ entry.1 := fun equal => here equal.symm
      simpa [get?, keys, here, apart] using inductionHypothesis

theorem get?_eq_none_iff {key : Key} {listing : Listing Key Item} :
    get? key listing = none ↔ key ∉ keys listing := by
  rw [← get?_isSome_iff, Option.not_isSome_iff_eq_none]

theorem get?_amend (key other : Key) (change : Item → Item) (listing : Listing Key Item) :
    get? other (amend key change listing) =
      if other = key then (get? other listing).map change else get? other listing := by
  induction listing with
  | nil => simp [get?, amend]
  | cons entry rest inductionHypothesis =>
    simp only [amend] at inductionHypothesis
    by_cases here : entry.1 = key <;> by_cases there : entry.1 = other <;>
      by_cases same : other = key <;> simp_all [get?, amend]

theorem get?_append (key : Key) (first second : Listing Key Item) :
    get? key (first ++ second) = (get? key first).or (get? key second) := by
  induction first with
  | nil => simp [get?]
  | cons entry rest inductionHypothesis =>
    by_cases here : entry.1 = key <;> simp_all [get?]

/-- What is put under a key is there, and nothing else has changed. -/
theorem get?_put (key other : Key) (item : Item) (listing : Listing Key Item) :
    get? other (put key item listing) = if other = key then some item else get? other listing := by
  unfold put
  split
  · next found =>
    rw [get?_amend]
    split
    · next same =>
      subst same
      obtain ⟨before, known⟩ := Option.isSome_iff_exists.mp found
      simp [known]
    · rfl
  · next missing =>
    rw [get?_append]
    by_cases same : other = key
    · subst same
      simp_all [get?]
    · have apart : key ≠ other := fun equal => same equal.symm
      simp [get?, same, apart]

theorem get?_remove (key other : Key) (listing : Listing Key Item) :
    get? other (remove key listing) = if other = key then none else get? other listing := by
  induction listing with
  | nil => simp [get?, remove]
  | cons entry rest inductionHypothesis =>
    simp only [remove] at inductionHypothesis
    by_cases here : entry.1 = key <;> by_cases there : entry.1 = other <;>
      by_cases same : other = key <;> simp_all [get?, remove]

/-! ### Keys -/

theorem keys_amend (key : Key) (change : Item → Item) (listing : Listing Key Item) :
    keys (amend key change listing) = keys listing := by
  simp only [keys, amend, List.map_map]
  refine List.map_congr_left fun entry _ => ?_
  simp only [Function.comp_apply]
  split <;> rfl

theorem keys_put (key : Key) (item : Item) (listing : Listing Key Item) :
    keys (put key item listing) =
      if key ∈ keys listing then keys listing else keys listing ++ [key] := by
  unfold put
  simp only [get?_isSome_iff]
  split
  · rw [keys_amend]
  · simp [keys]

theorem keys_remove (key : Key) (listing : Listing Key Item) :
    keys (remove key listing) = (keys listing).filter fun found => found ≠ key := by
  simp only [keys, remove, List.filter_map]
  rfl

/-- No key is listed twice if none was before. -/
theorem nodup_keys_put {key : Key} {item : Item} {listing : Listing Key Item}
    (distinct : (keys listing).Nodup) : (keys (put key item listing)).Nodup := by
  rw [keys_put]
  split
  · exact distinct
  · next fresh =>
    refine List.nodup_append.mpr ⟨distinct, by simp, fun found member other single => ?_⟩
    rw [List.mem_singleton.mp single]
    exact fun equal => fresh (equal ▸ member)

/-! ### What is read of the items -/

theorem remove_of_not_mem {key : Key} {listing : Listing Key Item} (absent : key ∉ keys listing) :
    remove key listing = listing :=
  List.filter_eq_self.mpr fun _ member =>
    decide_eq_true fun same => absent (same ▸ List.mem_map_of_mem member)

theorem remove_put (key : Key) (item : Item) (listing : Listing Key Item) :
    remove key (put key item listing) = remove key listing := by
  unfold put
  split
  · simp only [remove, amend, List.filter_map]
    have unmoved : (fun entry : Key × Item => decide (entry.1 ≠ key)) ∘
        (fun entry => if entry.1 = key then (entry.1, item) else entry) =
          fun entry => decide (entry.1 ≠ key) := by
      funext entry
      simp only [Function.comp_apply]
      split <;> rfl
    rw [unmoved]
    refine (List.map_congr_left fun entry member => ?_).trans (List.map_id _)
    exact if_neg (of_decide_eq_true (List.mem_filter.mp member).2)
  · simp [remove]

variable {Found : Type} {read : Key × Item → List Found}

/-- What is read of a listing is what is read of one of its items and of the rest. -/
theorem perm_flatMap {key : Key} {item : Item} {listing : Listing Key Item}
    (distinct : (keys listing).Nodup) (found : get? key listing = some item) :
    (listing.flatMap read).Perm (read (key, item) ++ (remove key listing).flatMap read) := by
  induction listing with
  | nil => cases found
  | cons entry rest inductionHypothesis =>
    obtain ⟨fresh, distinctRest⟩ := List.nodup_cons.mp distinct
    rw [get?] at found
    split at found
    · next here =>
      subst here
      cases found
      have others : remove entry.1 rest = rest := remove_of_not_mem fresh
      have same : remove entry.1 (entry :: rest) = rest := by
        simpa [remove] using others
      rw [same, List.flatMap_cons]
    · next apart =>
      have same : remove key (entry :: rest) = entry :: remove key rest := by
        simp [remove, apart]
      rw [same, List.flatMap_cons, List.flatMap_cons]
      calc read entry ++ rest.flatMap read
        _ |>.Perm (read entry ++ (read (key, item) ++ (remove key rest).flatMap read)) :=
          (inductionHypothesis distinctRest found).append_left _
        _ |>.Perm (read (key, item) ++ (read entry ++ (remove key rest).flatMap read)) :=
          List.perm_append_comm_assoc ..

theorem perm_flatMap_put {key : Key} {item : Item} {listing : Listing Key Item}
    (distinct : (keys listing).Nodup) : ((put key item listing).flatMap read).Perm
      (read (key, item) ++ (remove key listing).flatMap read) := by
  rw [← remove_put key item listing]
  exact perm_flatMap (nodup_keys_put distinct) (by rw [get?_put, if_pos rfl])

/-- A change that cannot be read changes nothing of what is read. -/
theorem flatMap_amend {key : Key} {change : Item → Item}
    (unread : ∀ item, read (key, change item) = read (key, item)) (listing : Listing Key Item) :
    (amend key change listing).flatMap read = listing.flatMap read := by
  rw [amend, List.flatMap_map]
  congr 1
  funext entry
  split
  · next same =>
    subst same
    exact unread entry.2
  · rfl

end Listing

end Taskyard
