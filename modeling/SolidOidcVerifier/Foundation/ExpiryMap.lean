import Mathlib

/-! Finite maps from keys to instants of expiry. A key is live before its instant; an expired key
may stay in the map until it is swept. -/
namespace Foundation.ExpiryMap

variable {K T : Type}

/-- The key has an instant of expiry that lies ahead. -/
def Live [LT T] (lookup : K → Option T) (now : T) (key : K) : Prop := ∃ expiry ∈ lookup key, now < expiry

instance [LT T] [DecidableLT T] (lookup : K → Option T) (now : T) (key : K) :
    Decidable (Live lookup now key) := by
  unfold Live
  infer_instance

variable [DecidableEq K]

abbrev Map (K T : Type) : Type := AList (fun _ : K => T)

def size (map : Map K T) : Nat := map.keys.length

/-- `HashMap::retain` on the values. -/
def retain (keep : T → Bool) (map : Map K T) : Map K T :=
  ⟨map.entries.filter (fun entry => keep entry.2),map.nodupKeys.sublist List.filter_sublist⟩

theorem mem_entries (map : Map K T) (key : K) (value : T) :
    ⟨key,value⟩ ∈ map.entries ↔ map.lookup key = some value :=
  (List.mem_dlookup_iff map.nodupKeys).symm

theorem lookup_retain (keep : T → Bool) (map : Map K T) (key : K) (value : T) :
    (retain keep map).lookup key = some value ↔ map.lookup key = some value ∧ keep value := by
  rw [← mem_entries,← mem_entries]
  exact List.mem_filter

theorem size_insert_new (map : Map K T) (key : K) (value : T) (absent : key ∉ map) :
    size (map.insert key value) = size map+1 := by
  unfold size
  rw [AList.keys_insert,List.length_cons,List.erase_of_not_mem absent]

theorem size_insert_old (map : Map K T) (key : K) (value : T) (present : key ∈ map) :
    size (map.insert key value) = size map := by
  have inside : key ∈ map.keys := present
  have filled := List.length_pos_of_mem inside
  unfold size
  rw [AList.keys_insert,List.length_cons,List.length_erase_of_mem inside]
  omega

theorem size_le_of_allowed (map : Map K T) (allowed : List K)
    (only : ∀ key value, map.lookup key = some value → key ∈ allowed) : size map ≤ allowed.dedup.length := by
  apply List.Subperm.length_le
  apply List.subperm_of_subset map.keys_nodup
  intro key member
  obtain ⟨value,found⟩ := Option.isSome_iff_exists.mp (AList.lookup_isSome.mpr member)
  exact List.mem_dedup.mpr (only key value found)

section live

variable [LinearOrder T]

def liveKeys (map : Map K T) (now : T) : List K := map.keys.filter (fun key => Live map.lookup now key)

theorem mem_liveKeys (map : Map K T) (now : T) (key : K) :
    key ∈ liveKeys map now ↔ Live map.lookup now key := by
  unfold liveKeys
  rw [List.mem_filter,decide_eq_true_eq]
  apply and_iff_right_of_imp
  intro live
  obtain ⟨expiry,found,_⟩ := live
  exact AList.lookup_isSome.mp (Option.isSome_of_mem found)

theorem nodup_liveKeys (map : Map K T) (now : T) : (liveKeys map now).Nodup :=
  map.keys_nodup.filter _

theorem liveKeys_le (map : Map K T) (now : T) : (liveKeys map now).length ≤ size map :=
  List.length_filter_le _ _

/-- An expired key in the map leaves room among the live ones. -/
theorem liveKeys_lt (map : Map K T) (now : T) (key : K) (present : key ∈ map)
    (expired : ¬Live map.lookup now key) : (liveKeys map now).length < size map := by
  apply List.length_filter_lt_length_iff_exists.mpr
  exact ⟨key,present,by simpa using expired⟩

/-- Sweeping the expired entries leaves exactly the live ones. -/
theorem size_sweep (map : Map K T) (now : T) :
    size (retain (fun expiry => decide (now < expiry)) map) = (liveKeys map now).length := by
  apply List.Perm.length_eq
  apply (List.perm_ext_iff_of_nodup (AList.keys_nodup _) (nodup_liveKeys map now)).mpr
  intro key
  rw [mem_liveKeys,← AList.mem_keys,← AList.lookup_isSome,Option.isSome_iff_exists]
  simp only [lookup_retain,decide_eq_true_eq]
  rfl

end live

end Foundation.ExpiryMap
