namespace CommitAdmission.Text

/-- A finite map from texts: its entries have ascending, hence distinct, keys. -/
structure TextMap (β : Type) where
  entries : List (String × β)
  ascending : entries.Pairwise (fun earlier later => earlier.1 < later.1)
  deriving DecidableEq

namespace TextMap

variable {β : Type}

def empty : TextMap β := ⟨[], List.Pairwise.nil⟩

instance : Inhabited (TextMap β) := ⟨empty⟩

/-- Puts an entry in its place; an entry with the same key gives way. -/
def place (key : String) (value : β) : List (String × β) → List (String × β)
  | [] => [(key, value)]
  | entry :: rest =>
    if key < entry.1 then (key, value) :: entry :: rest
    else if key = entry.1 then (key, value) :: rest
    else entry :: place key value rest

theorem mem_place {key : String} {value : β} {entries : List (String × β)} {entry : String × β}
    (member : entry ∈ place key value entries) : entry = (key, value) ∨ entry ∈ entries := by
  induction entries with
  | nil => simpa [place] using member
  | cons head rest ih =>
    unfold place at member
    split at member
    · simpa using member
    · split at member
      · rcases List.mem_cons.mp member with h | h
        · exact .inl h
        · exact .inr (List.mem_cons_of_mem _ h)
      · rcases List.mem_cons.mp member with h | h
        · exact .inr (h ▸ List.mem_cons_self)
        · exact (ih h).imp id (List.mem_cons_of_mem _)

theorem ascending_place (key : String) (value : β) {entries : List (String × β)}
    (ascending : entries.Pairwise (fun earlier later => earlier.1 < later.1)) :
    (place key value entries).Pairwise (fun earlier later => earlier.1 < later.1) := by
  induction entries with
  | nil => simp [place]
  | cons head rest ih =>
    obtain ⟨first, others⟩ := List.pairwise_cons.mp ascending
    unfold place
    split
    · next below =>
      refine List.pairwise_cons.mpr ⟨fun entry member => ?_, ascending⟩
      rcases List.mem_cons.mp member with rfl | member
      · exact below
      · exact String.lt_trans below (first entry member)
    · next notBelow =>
      split
      · next same =>
        refine List.pairwise_cons.mpr ⟨fun entry member => ?_, others⟩
        simpa [same] using first entry member
      · next differs =>
        refine List.pairwise_cons.mpr ⟨fun entry member => ?_, ih others⟩
        rcases mem_place member with rfl | member
        · refine Classical.byContradiction fun above => differs ?_
          exact String.le_antisymm (String.not_lt.mp above) (String.not_lt.mp notBelow)
        · exact first entry member

def insert (map : TextMap β) (key : String) (value : β) : TextMap β :=
  ⟨place key value map.entries, ascending_place key value map.ascending⟩

theorem place_of_above {key : String} (value : β) {entries : List (String × β)}
    (above : ∀ entry ∈ entries, entry.1 < key) :
    place key value entries = entries ++ [(key, value)] := by
  induction entries with
  | nil => rfl
  | cons head rest ih =>
    obtain ⟨below, others⟩ := List.forall_mem_cons.mp above
    have differs : key ≠ head.1 := fun same => String.lt_irrefl _ (same ▸ below)
    rw [place, if_neg (String.lt_asymm below), if_neg differs, ih others, List.cons_append]

/-- The map of some entries; of several with one key the last counts. -/
def ofList (entries : List (String × β)) : TextMap β :=
  entries.foldl (fun map entry => map.insert entry.1 entry.2) empty

theorem eq_of_entries_eq {map other : TextMap β} (same : map.entries = other.entries) :
    map = other := by
  cases map
  cases other
  cases same
  rfl

theorem entries_foldl_insert (map : TextMap β) {entries : List (String × β)}
    (ascending : (map.entries ++ entries).Pairwise (fun earlier later => earlier.1 < later.1)) :
    (entries.foldl (fun map entry => map.insert entry.1 entry.2) map).entries =
      map.entries ++ entries := by
  induction entries generalizing map with
  | nil => rw [List.foldl_nil, List.append_nil]
  | cons head rest ih =>
    have inserted : (map.insert head.1 head.2).entries = map.entries ++ [head] := by
      apply place_of_above
      intro entry member
      exact (List.pairwise_append.mp ascending).2.2 entry member head List.mem_cons_self
    rw [List.append_cons, ← inserted] at ascending
    rw [List.foldl_cons, ih _ ascending, inserted, ← List.append_cons]

theorem ofList_entries (map : TextMap β) : ofList map.entries = map :=
  eq_of_entries_eq (entries_foldl_insert empty map.ascending)

def get? (map : TextMap β) (key : String) : Option β := map.entries.lookup key

def isEmpty (map : TextMap β) : Bool := map.entries.isEmpty

theorem eq_empty_of_isEmpty {map : TextMap β} (isEmpty : map.isEmpty = true) : map = empty :=
  eq_of_entries_eq (List.isEmpty_iff.mp isEmpty)

end TextMap

structure TextSet where
  members : List String
  ascending : members.Pairwise (· < ·)
  deriving DecidableEq, Repr

namespace TextSet

def empty : TextSet := ⟨[], List.Pairwise.nil⟩

instance : Inhabited TextSet := ⟨empty⟩

def place (text : String) : List String → List String
  | [] => [text]
  | head :: rest =>
    if text < head then text :: head :: rest
    else if text = head then head :: rest
    else head :: place text rest

theorem mem_place {text member : String} {members : List String} :
    member ∈ place text members ↔ member = text ∨ member ∈ members := by
  induction members with
  | nil => simp [place]
  | cons head rest ih =>
    unfold place
    split
    · simp
    · split
      · next same => simp [same]
      · simp only [List.mem_cons, ih]
        exact or_left_comm

theorem ascending_place (text : String) {members : List String}
    (ascending : members.Pairwise (· < ·)) : (place text members).Pairwise (· < ·) := by
  induction members with
  | nil => simp [place]
  | cons head rest ih =>
    obtain ⟨first, others⟩ := List.pairwise_cons.mp ascending
    unfold place
    split
    · next below =>
      refine List.pairwise_cons.mpr ⟨fun member h => ?_, ascending⟩
      rcases List.mem_cons.mp h with rfl | h
      · exact below
      · exact String.lt_trans below (first member h)
    · next notBelow =>
      split
      · exact ascending
      · next differs =>
        refine List.pairwise_cons.mpr ⟨fun member h => ?_, ih others⟩
        rcases mem_place.mp h with rfl | h
        · refine Classical.byContradiction fun above => differs ?_
          exact String.le_antisymm (String.not_lt.mp above) (String.not_lt.mp notBelow)
        · exact first member h

def insert (set : TextSet) (text : String) : TextSet :=
  ⟨place text set.members, ascending_place text set.ascending⟩

theorem place_of_above {text : String} {members : List String}
    (above : ∀ member ∈ members, member < text) : place text members = members ++ [text] := by
  induction members with
  | nil => rfl
  | cons head rest ih =>
    obtain ⟨below, others⟩ := List.forall_mem_cons.mp above
    have differs : text ≠ head := fun same => String.lt_irrefl _ (same ▸ below)
    rw [place, if_neg (String.lt_asymm below), if_neg differs, ih others, List.cons_append]

def ofList (texts : List String) : TextSet := texts.foldl insert empty

theorem eq_of_members_eq {set other : TextSet} (same : set.members = other.members) :
    set = other := by
  cases set
  cases other
  cases same
  rfl

theorem members_foldl_insert (set : TextSet) {texts : List String}
    (ascending : (set.members ++ texts).Pairwise (· < ·)) :
    (texts.foldl insert set).members = set.members ++ texts := by
  induction texts generalizing set with
  | nil => rw [List.foldl_nil, List.append_nil]
  | cons head rest ih =>
    have inserted : (set.insert head).members = set.members ++ [head] := by
      apply place_of_above
      intro member within
      exact (List.pairwise_append.mp ascending).2.2 member within head List.mem_cons_self
    rw [List.append_cons, ← inserted] at ascending
    rw [List.foldl_cons, ih _ ascending, inserted, ← List.append_cons]

theorem ofList_members (set : TextSet) : ofList set.members = set :=
  eq_of_members_eq (members_foldl_insert empty set.ascending)

def contains (set : TextSet) (text : String) : Bool := set.members.contains text

def isEmpty (set : TextSet) : Bool := set.members.isEmpty

end TextSet

end CommitAdmission.Text
