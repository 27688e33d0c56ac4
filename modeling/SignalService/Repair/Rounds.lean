import Mathlib.Tactic

/-! # Repairing a view of a roster

Somebody keeps, for each device of a peer, a status: whether it can be used and whether
it is current. A round posts one item for each device with a status, and for the primary
device; what cannot be used is renewed on the way. The roster answers that devices are
missing or extra, that some items were outdated, or that it accepts, and the view is
repaired by the answer. How many rounds it takes depends on the view one starts from.
-/

namespace SignalService.Repair

structure Status where
  ready : Bool
  current : Bool
  deriving DecidableEq, Repr

def Status.renewed : Status := ⟨true, true⟩

/-- What is known of each device. -/
abbrev View (δ : Type) := δ → Option Status

namespace View

variable {δ : Type} {v : View δ} {d : δ}

def ready (v : View δ) (d : δ) : Bool :=
  match v d with
  | some s => s.ready
  | none => false

def current (v : View δ) (d : δ) : Bool :=
  match v d with
  | some s => s.current
  | none => false

theorem ready_of_renewed (renewed : v d = some .renewed) : v.ready d = true := by
  simp [ready, renewed, Status.renewed]

theorem current_of_renewed (renewed : v d = some .renewed) : v.current d = true := by
  simp [current, renewed, Status.renewed]

theorem ready_congr {v' : View δ} (same : v' d = v d) : v'.ready d = v.ready d := by
  simp only [ready, same]

theorem current_congr {v' : View δ} (same : v' d = v d) : v'.current d = v.current d := by
  simp only [current, same]

theorem isSome_of_ready (usable : v.ready d = true) : (v d).isSome = true := by
  cases status : v d with
  | none => simp [ready, status] at usable
  | some s => rfl

variable [DecidableEq δ] {ds : List δ}

def renew (v : View δ) (ds : List δ) : View δ := fun d => if d ∈ ds then some .renewed else v d

def drop (v : View δ) (ds : List δ) : View δ := fun d => if d ∈ ds then none else v d

theorem renew_of_mem (member : d ∈ ds) : v.renew ds d = some .renewed := if_pos member

theorem renew_of_not_mem (other : d ∉ ds) : v.renew ds d = v d := if_neg other

theorem drop_of_mem (member : d ∈ ds) : v.drop ds d = none := if_pos member

theorem drop_of_not_mem (other : d ∉ ds) : v.drop ds d = v d := if_neg other

theorem drop_cons : v.drop (d :: ds) = (v.drop [d]).drop ds := by
  funext e
  simp only [drop, List.mem_cons, List.not_mem_nil, or_false]
  by_cases later : e ∈ ds <;> simp [later]

end View

variable {δ : Type} [DecidableEq δ]

/-- The devices a peer really has. -/
structure Roster (δ : Type) where
  primary : δ
  devices : List δ
  primary_mem : primary ∈ devices

variable (r : Roster δ)

/-! ## A round -/

/-- Post an item for one device: whether it is current, and the view afterwards. The
    primary device is renewed together with all others. -/
def post (v : View δ) (d : δ) : Bool × View δ :=
  if v.ready d then (v.current d, v)
  else (true, v.renew (if d = r.primary then r.devices else [d]))

def postAll : List δ → View δ → List (δ × Bool) × View δ
  | [], v => ([], v)
  | d :: ds, v =>
      ((d, (post r v d).1) :: (postAll ds (post r v d).2).1, (postAll ds (post r v d).2).2)

inductive Answer (δ : Type) where
  | accepted
  | mismatched (missing extra : List δ)
  | outdated (ds : List δ)
  deriving DecidableEq, Repr

def missing (sent : List δ) : List δ := r.devices.filter (· ∉ sent)

def extra (sent : List δ) : List δ := sent.filter (· ∉ r.devices)

def outdated (batch : List (δ × Bool)) : List δ := (batch.filter (!·.2)).map Prod.fst

def judge (batch : List (δ × Bool)) : Answer δ :=
  let sent := batch.map Prod.fst
  if missing r sent ≠ [] ∨ extra r sent ≠ [] then .mismatched (missing r sent) (extra r sent)
  else if outdated batch ≠ [] then .outdated (outdated batch)
  else .accepted

def repair : Answer δ → View δ → View δ
  | .accepted, v => v
  | .mismatched missing extra, v => (v.drop extra).renew missing
  | .outdated ds, v => v.drop ds

/-- The devices an item is posted for. -/
def IsTargets (v : View δ) (order : List δ) : Prop :=
  ∀ d, d ∈ order ↔ d = r.primary ∨ (v d).isSome = true

/-- Whatever the orders, some of the next `n` rounds is accepted. -/
def Accepts : Nat → View δ → Prop
  | 0, _ => False
  | n + 1, v => ∀ order, IsTargets r v order →
      judge r (postAll r order v).1 = .accepted ∨
        Accepts n (repair (judge r (postAll r order v).1) (postAll r order v).2)

variable {r}

/-! ## What posting does to a view -/

/-- A batch and the view it leaves: nothing is lost, only devices of the roster are
    renewed, and an item is outdated only where a usable status was. -/
structure Posted (r : Roster δ) (v : View δ) (order : List δ) (batch : List (δ × Bool))
    (v' : View δ) : Prop where
  sent : batch.map Prod.fst = order
  kept : ∀ d, v' d = v d ∨ (d ∈ r.devices ∧ v' d = some .renewed)
  stale : ∀ d, (d, false) ∈ batch → v.ready d = true ∧ v.current d = false
  recent : ∀ d, (d, true) ∈ batch → v'.current d = true
  renewed : ∀ d ∈ order, v.ready d = false → v' d = some .renewed
  stored : ∀ d ∈ order, (v' d).isSome = true
  renewedAll : r.primary ∈ order → v.ready r.primary = false →
    ∀ d ∈ r.devices, v' d = some .renewed

theorem post_kept {v : View δ} {d : δ} (known : d ∈ r.devices ∨ v.ready d = true) (e : δ) :
    (post r v d).2 e = v e ∨ (e ∈ r.devices ∧ (post r v d).2 e = some .renewed) := by
  unfold post
  cases usable : v.ready d with
  | true => exact .inl rfl
  | false =>
      have device : d ∈ r.devices := by
        rcases known with device | usable'
        · exact device
        · rw [usable] at usable'
          cases usable'
      simp only [Bool.false_eq_true, if_false]
      by_cases member : e ∈ (if d = r.primary then r.devices else [d])
      · right
        refine ⟨?_, View.renew_of_mem member⟩
        split at member
        · exact member
        · rw [List.mem_singleton.mp member]
          exact device
      · exact .inl (View.renew_of_not_mem member)

theorem post_renewed {v : View δ} {d : δ} (unusable : v.ready d = false) :
    (post r v d).2 d = some .renewed := by
  unfold post
  rw [unusable]
  simp only [Bool.false_eq_true, if_false]
  apply View.renew_of_mem
  split
  · next primary => rw [primary]; exact r.primary_mem
  · exact List.mem_singleton_self d

theorem post_stale {v : View δ} {d : δ} (old : (post r v d).1 = false) :
    v.ready d = true ∧ v.current d = false := by
  unfold post at old
  cases usable : v.ready d with
  | true =>
      rw [if_pos usable] at old
      exact ⟨rfl, old⟩
  | false => simp [usable] at old

theorem post_recent {v : View δ} {d : δ} (recent : (post r v d).1 = true) :
    (post r v d).2.current d = true := by
  cases usable : v.ready d with
  | true =>
      unfold post at recent ⊢
      rw [if_pos usable] at recent ⊢
      exact recent
  | false => exact View.current_of_renewed (post_renewed usable)

theorem post_stored (v : View δ) (d : δ) : ((post r v d).2 d).isSome = true := by
  cases usable : v.ready d with
  | true =>
      unfold post
      rw [if_pos usable]
      exact View.isSome_of_ready usable
  | false =>
      rw [post_renewed usable]
      rfl

theorem post_primary {v : View δ} (unusable : v.ready r.primary = false) {e : δ}
    (device : e ∈ r.devices) : (post r v r.primary).2 e = some .renewed := by
  simp only [post, unusable, Bool.false_eq_true, if_false, if_true]
  exact View.renew_of_mem device

theorem post_other {v : View δ} {d : δ} (other : d ≠ r.primary) :
    (post r v d).2 r.primary = v r.primary := by
  unfold post
  cases v.ready d with
  | true => rfl
  | false =>
      simp only [Bool.false_eq_true, if_false, if_neg other]
      exact View.renew_of_not_mem (by simpa using Ne.symm other)

/-- What a device has may only become renewed. -/
def View.Kept (r : Roster δ) (v v' : View δ) : Prop :=
  ∀ d, v' d = v d ∨ (d ∈ r.devices ∧ v' d = some .renewed)

namespace View.Kept

variable {v v' v'' : View δ} (kept : Kept r v v') {d : δ}

omit [DecidableEq δ]
include kept

theorem trans (kept' : Kept r v' v'') : Kept r v v'' := by
  intro d
  rcases kept' d with same' | renewed
  · rw [same']
    exact kept d
  · exact .inr renewed

theorem renewed (before : v d = some .renewed) : v' d = some .renewed := by
  rcases kept d with same | ⟨-, after⟩
  · exact same.trans before
  · exact after

theorem ready (usable : v.ready d = true) : v'.ready d = true := by
  rcases kept d with same | ⟨-, after⟩
  · rw [View.ready_congr same]
    exact usable
  · exact View.ready_of_renewed after

theorem current (recent : v.current d = true) : v'.current d = true := by
  rcases kept d with same | ⟨-, after⟩
  · rw [View.current_congr same]
    exact recent
  · exact View.current_of_renewed after

theorem stored (stored : (v d).isSome = true) : (v' d).isSome = true := by
  rcases kept d with same | ⟨-, after⟩
  · rw [same]
    exact stored
  · rw [after]
    rfl

/-- A device that becomes usable was renewed. -/
theorem renewed_of_ready (unusable : v.ready d = false) (usable : v'.ready d = true) :
    v' d = some .renewed := by
  rcases kept d with same | ⟨-, after⟩
  · rw [View.ready_congr same, unusable] at usable
    cases usable
  · exact after

theorem eq_of_not_current (old : v'.current d = false) : v' d = v d := by
  rcases kept d with same | ⟨-, after⟩
  · exact same
  · rw [View.current_of_renewed after] at old
    cases old

end View.Kept

theorem postAll_posted (order : List δ) (v : View δ)
    (known : ∀ d ∈ order, d ∈ r.devices ∨ v.ready d = true) :
    Posted r v order (postAll r order v).1 (postAll r order v).2 := by
  induction order generalizing v with
  | nil =>
      refine ⟨rfl, fun d => .inl rfl, ?_, ?_, ?_, ?_, ?_⟩ <;> simp [postAll]
  | cons d ds ih =>
      have first : View.Kept r v (post r v d).2 := post_kept (known d List.mem_cons_self)
      have tail := ih (post r v d).2 (by
        intro e member
        exact (known e (List.mem_cons_of_mem d member)).imp_right first.ready)
      have rest : View.Kept r (post r v d).2 (postAll r (d :: ds) v).2 := tail.kept
      constructor
      case sent =>
        simp only [postAll, List.map_cons, tail.sent]
      case kept => exact first.trans rest
      case stale =>
        intro e member
        rcases List.mem_cons.mp member with same | member
        · obtain ⟨rfl, old⟩ := Prod.mk.inj same
          exact post_stale old.symm
        · obtain ⟨usable, old⟩ := tail.stale e member
          have same := first.eq_of_not_current old
          rw [← View.ready_congr same, ← View.current_congr same]
          exact ⟨usable, old⟩
      case recent =>
        intro e member
        rcases List.mem_cons.mp member with same | member
        · obtain ⟨rfl, recent⟩ := Prod.mk.inj same
          exact rest.current (post_recent recent.symm)
        · exact tail.recent e member
      case renewed =>
        intro e member unusable
        rcases List.mem_cons.mp member with rfl | member
        · exact rest.renewed (post_renewed unusable)
        · cases usable : (post r v d).2.ready e with
          | false => exact tail.renewed e member usable
          | true => exact rest.renewed (first.renewed_of_ready unusable usable)
      case stored =>
        intro e member
        rcases List.mem_cons.mp member with rfl | member
        · exact rest.stored (post_stored v e)
        · exact tail.stored e member
      case renewedAll =>
        intro member unusable e device
        by_cases isPrimary : d = r.primary
        · subst isPrimary
          exact rest.renewed (post_primary unusable device)
        · have later : r.primary ∈ ds := by
            rcases List.mem_cons.mp member with same | later
            · exact absurd same.symm isPrimary
            · exact later
          have still := View.ready_congr (post_other (v := v) isPrimary)
          exact tail.renewedAll later (still.trans unusable) e device

/-! ## Counting rounds -/

/-- The devices an item is posted for are those of the roster. -/
def Exact (r : Roster δ) (v : View δ) : Prop :=
  ∀ d, (d = r.primary ∨ (v d).isSome = true) ↔ d ∈ r.devices

/-- What is known of devices outside the roster is usable; it is only found out there that
    they are not in it. -/
def Safe (r : Roster δ) (v : View δ) : Prop :=
  ∀ d, d ∉ r.devices → (v d).isSome = true → v.ready d = true

/-- Everything that is known of the roster is current. -/
def AllCurrent (r : Roster δ) (v : View δ) : Prop :=
  ∀ d ∈ r.devices, v.ready d = true → v.current d = true

/-- The same, apart from the primary device. -/
def OthersCurrent (r : Roster δ) (v : View δ) : Prop :=
  ∀ d ∈ r.devices, d ≠ r.primary → v.ready d = true → v.current d = true

variable {v v' : View δ} {order : List δ} {batch : List (δ × Bool)}

omit [DecidableEq δ] in
theorem Exact.safe (exact : Exact r v) : Safe r v := by
  intro d outside known
  exact absurd ((exact d).mp (.inr known)) outside

theorem targets_known (targets : IsTargets r v order) (safe : Safe r v) :
    ∀ d ∈ order, d ∈ r.devices ∨ v.ready d = true := by
  intro d member
  by_cases device : d ∈ r.devices
  · exact .inl device
  · rcases (targets d).mp member with rfl | known
    · exact absurd r.primary_mem device
    · exact .inr (safe d device known)

theorem targets_posted (targets : IsTargets r v order) (safe : Safe r v) :
    Posted r v order (postAll r order v).1 (postAll r order v).2 :=
  postAll_posted order v (targets_known targets safe)

theorem missing_eq_nil (targets : IsTargets r v order) (exact : Exact r v) :
    missing r order = [] := by
  unfold missing
  rw [List.filter_eq_nil_iff]
  intro d device
  have member : d ∈ order := (targets d).mpr ((exact d).mpr device)
  simpa using member

theorem extra_eq_nil (targets : IsTargets r v order) (exact : Exact r v) : extra r order = [] := by
  unfold extra
  rw [List.filter_eq_nil_iff]
  intro d member
  have device : d ∈ r.devices := (exact d).mp ((targets d).mp member)
  simpa using device

omit [DecidableEq δ] in
theorem mem_outdated {d : δ} : d ∈ outdated batch ↔ (d, false) ∈ batch := by
  simp [outdated]

/-- The three answers, with what each of them means for the batch. -/
theorem judge_cases (sent : batch.map Prod.fst = order) :
    (judge r batch = .mismatched (missing r order) (extra r order) ∧
      (missing r order ≠ [] ∨ extra r order ≠ [])) ∨
    (judge r batch = .outdated (outdated batch) ∧ missing r order = [] ∧ extra r order = []) ∨
    (judge r batch = .accepted) := by
  unfold judge
  simp only [sent]
  split
  · next mismatched => exact .inl ⟨rfl, mismatched⟩
  · next matched =>
      rw [not_or, not_not, not_not] at matched
      split
      · exact .inr (.inl ⟨rfl, matched⟩)
      · exact .inr (.inr rfl)

/-- A batch for the right devices that has nothing outdated is accepted. -/
theorem judge_accepted (sent : batch.map Prod.fst = order) (none_missing : missing r order = [])
    (none_extra : extra r order = []) (recent : ∀ d, (d, false) ∉ batch) :
    judge r batch = .accepted := by
  have up_to_date : outdated batch = [] := by
    rw [List.eq_nil_iff_forall_not_mem]
    intro d member
    exact recent d (mem_outdated.mp member)
  simp [judge, sent, none_missing, none_extra, up_to_date]

omit [DecidableEq δ] in
theorem Posted.isSome (posted : Posted r v order batch v') {d : δ} (known : (v' d).isSome = true) :
    (v d).isSome = true ∨ d ∈ r.devices := by
  rcases posted.kept d with same | ⟨device, -⟩
  · rw [same] at known
    exact .inl known
  · exact .inr device

omit [DecidableEq δ] in
/-- What is outdated after a batch was so before. -/
theorem Posted.outdated_before (posted : Posted r v order batch v') {d : δ}
    (usable : v'.ready d = true) (old : v'.current d = false) :
    v.ready d = true ∧ v.current d = false := by
  rcases posted.kept d with same | ⟨-, renewed⟩
  · rw [← View.ready_congr same, ← View.current_congr same]
    exact ⟨usable, old⟩
  · rw [View.current_of_renewed renewed] at old
    cases old

/-- After the answer that devices are missing or extra, the view names the roster. -/
theorem exact_of_mismatched (targets : IsTargets r v order) (posted : Posted r v order batch v') :
    Exact r (repair (.mismatched (missing r order) (extra r order)) v') := by
  intro d
  by_cases absent : d ∈ missing r order
  · have device : d ∈ r.devices := List.mem_of_mem_filter absent
    refine iff_of_true (.inr ?_) device
    rw [repair, View.renew_of_mem absent]
    rfl
  · rw [repair, View.renew_of_not_mem absent]
    by_cases device : d ∈ r.devices
    · have member : d ∈ order := by
        by_contra other
        exact absent (List.mem_filter.mpr ⟨device, by simpa using other⟩)
      have kept : d ∉ extra r order := by
        intro member
        have outside := (List.mem_filter.mp member).2
        simp [device] at outside
      refine iff_of_true (.inr ?_) device
      rw [View.drop_of_not_mem kept]
      exact posted.stored d member
    · refine iff_of_false ?_ device
      rintro (rfl | known)
      · exact device r.primary_mem
      · by_cases gone : d ∈ extra r order
        · rw [View.drop_of_mem gone] at known
          cases known
        · rw [View.drop_of_not_mem gone] at known
          rcases posted.isSome known with before | device'
          · have member : d ∈ order := (targets d).mpr (.inr before)
            exact gone (List.mem_filter.mpr ⟨member, by simpa using device⟩)
          · exact device device'

/-- That answer renews or forgets, but makes nothing outdated. -/
theorem repair_outdated {answer : Answer δ} {d : δ}
    (usable : (repair answer v).ready d = true) (old : (repair answer v).current d = false) :
    v.ready d = true ∧ v.current d = false := by
  have dropped (ds : List δ) (usable : (v.drop ds).ready d = true)
      (old : (v.drop ds).current d = false) : v.ready d = true ∧ v.current d = false := by
    have kept : d ∉ ds := by
      intro member
      simp [View.ready, View.drop_of_mem member] at usable
    rw [View.ready_congr (View.drop_of_not_mem kept)] at usable
    rw [View.current_congr (View.drop_of_not_mem kept)] at old
    exact ⟨usable, old⟩
  cases answer with
  | accepted => exact ⟨usable, old⟩
  | outdated ds => exact dropped ds usable old
  | mismatched missing extra =>
      have kept : d ∉ missing := by
        intro member
        have recent := View.current_of_renewed (v := (v.drop extra).renew missing)
          (View.renew_of_mem member)
        exact absurd (old.symm.trans recent) Bool.false_ne_true
      have same : repair (.mismatched missing extra) v d = v.drop extra d :=
        View.renew_of_not_mem kept
      rw [View.ready_congr same] at usable
      rw [View.current_congr same] at old
      exact dropped extra usable old

/-- After the answer that items were outdated, nothing outdated is left. -/
theorem allCurrent_of_outdated (posted : Posted r v order batch v')
    (none_missing : missing r order = []) :
    AllCurrent r (repair (.outdated (outdated batch)) v') := by
  intro d device usable
  have kept : d ∉ outdated batch := by
    intro member
    simp [repair, View.ready, View.drop_of_mem member] at usable
  have sent : d ∈ order := by
    by_contra other
    have absent : d ∈ missing r order := List.mem_filter.mpr ⟨device, by simpa using other⟩
    rw [none_missing] at absent
    cases absent
  rw [← posted.sent, List.mem_map] at sent
  obtain ⟨⟨e, recent⟩, member, rfl⟩ := sent
  cases recent with
  | false => exact absurd (mem_outdated.mpr member) kept
  | true =>
      rw [repair, View.current_congr (View.drop_of_not_mem kept)]
      exact posted.recent e member

theorem safe_of_outdated (targets : IsTargets r v order) (posted : Posted r v order batch v')
    (none_extra : extra r order = []) (ds : List δ) : Safe r (repair (.outdated ds) v') := by
  intro d outside known
  have kept : d ∉ ds := by
    intro member
    rw [repair, View.drop_of_mem member] at known
    cases known
  rw [repair, View.drop_of_not_mem kept] at known
  rcases posted.isSome known with before | device
  · have member : d ∈ order := (targets d).mpr (.inr before)
    have surplus : d ∈ extra r order := List.mem_filter.mpr ⟨member, by simpa using outside⟩
    rw [none_extra] at surplus
    cases surplus
  · exact absurd device outside

omit [DecidableEq δ] in
theorem Posted.safe (posted : Posted r v order batch v') (safe : Safe r v) : Safe r v' := by
  intro d outside known
  rcases posted.kept d with same | ⟨device, -⟩
  · rw [View.ready_congr same]
    rw [same] at known
    exact safe d outside known
  · exact absurd device outside

/-- A round leaves a safe view safe. -/
theorem safe_repair (targets : IsTargets r v order) (safe : Safe r v) :
    Safe r (repair (judge r (postAll r order v).1) (postAll r order v).2) := by
  have posted := targets_posted targets safe
  rcases judge_cases posted.sent with ⟨answer, -⟩ | ⟨answer, -, none_extra⟩ | answer
  · rw [answer]
    exact (exact_of_mismatched targets posted).safe
  · rw [answer]
    exact safe_of_outdated targets posted none_extra _
  · rw [answer]
    exact posted.safe safe

omit [DecidableEq δ] in
theorem Posted.exact (posted : Posted r v order batch v') (targets : IsTargets r v order)
    (exact : Exact r v) : Exact r v' := by
  intro d
  constructor
  · rintro (rfl | known)
    · exact r.primary_mem
    · rcases posted.isSome known with before | device
      · exact (exact d).mp (.inr before)
      · exact device
  · intro device
    exact .inr (posted.stored d ((targets d).mpr ((exact d).mpr device)))

/-- Forgetting the primary device does not change which devices are posted for. -/
theorem exact_drop (exact : Exact r v) {ds : List δ} (only : ∀ d ∈ ds, d = r.primary) :
    Exact r (v.drop ds) := by
  intro d
  rw [← exact d]
  by_cases gone : d ∈ ds
  · have primary := only d gone
    exact iff_of_true (.inl primary) (.inl primary)
  · rw [View.drop_of_not_mem gone]

theorem Accepts.succ {n : Nat} (accepts : Accepts r n v) : Accepts r (n + 1) v := by
  induction n generalizing v with
  | zero => exact absurd accepts id
  | succ n ih =>
      intro order targets
      rcases accepts order targets with accepted | later
      · exact .inl accepted
      · exact .inr (ih later)

theorem accepts_one (exact : Exact r v) (current : AllCurrent r v) : Accepts r 1 v := by
  intro order targets
  have posted := targets_posted targets exact.safe
  left
  apply judge_accepted posted.sent (missing_eq_nil targets exact) (extra_eq_nil targets exact)
  intro d member
  obtain ⟨usable, old⟩ := posted.stale d member
  have sent : d ∈ order := by
    rw [← posted.sent]
    exact List.mem_map_of_mem member
  have recent := current d ((exact d).mp ((targets d).mp sent)) usable
  exact absurd (old.symm.trans recent) Bool.false_ne_true

/-- With everything current, one answer tells the roster. -/
theorem accepts_two_of_allCurrent (safe : Safe r v) (current : AllCurrent r v) :
    Accepts r 2 v := by
  intro order targets
  have posted := targets_posted targets safe
  rcases judge_cases posted.sent with ⟨answer, -⟩ | ⟨answer, none_missing, none_extra⟩ | answer
  · right
    rw [answer]
    apply accepts_one (exact_of_mismatched targets posted)
    intro d device usable
    by_contra old
    obtain ⟨usable, old⟩ := repair_outdated usable (Bool.not_eq_true _ ▸ old)
    obtain ⟨usable, old⟩ := posted.outdated_before usable old
    exact absurd (old.symm.trans (current d device usable)) Bool.false_ne_true
  · left
    apply judge_accepted posted.sent none_missing none_extra
    intro d member
    obtain ⟨usable, old⟩ := posted.stale d member
    have sent : d ∈ order := by
      rw [← posted.sent]
      exact List.mem_map_of_mem member
    have device : d ∈ r.devices := by
      by_contra outside
      have surplus : d ∈ extra r order := List.mem_filter.mpr ⟨sent, by simpa using outside⟩
      rw [none_extra] at surplus
      cases surplus
    exact absurd (old.symm.trans (current d device usable)) Bool.false_ne_true
  · exact .inl answer

/-- The answers to a batch for the right devices. -/
theorem exact_cases (targets : IsTargets r v order) (exact : Exact r v)
    (posted : Posted r v order batch v') :
    judge r batch = .outdated (outdated batch) ∨ judge r batch = .accepted := by
  rcases judge_cases posted.sent with ⟨-, missing | extra⟩ | ⟨answer, -⟩ | answer
  · exact absurd (missing_eq_nil targets exact) missing
  · exact absurd (extra_eq_nil targets exact) extra
  · exact .inl answer
  · exact .inr answer

/-- The primary device is renewed without the roster saying that it is missing. -/
theorem accepts_two_of_exact (exact : Exact r v) (others : OthersCurrent r v) :
    Accepts r 2 v := by
  intro order targets
  have posted := targets_posted targets exact.safe
  rcases exact_cases targets exact posted with answer | answer
  · right
    rw [answer]
    apply accepts_one
    · apply exact_drop (posted.exact targets exact)
      intro d member
      obtain ⟨usable, old⟩ := posted.stale d (mem_outdated.mp member)
      by_contra other
      have sent : d ∈ order := by
        rw [← posted.sent]
        exact List.mem_map_of_mem (mem_outdated.mp member)
      have recent := others d ((exact d).mp ((targets d).mp sent)) other usable
      exact absurd (old.symm.trans recent) Bool.false_ne_true
    · exact allCurrent_of_outdated posted (missing_eq_nil targets exact)
  · exact .inl answer

theorem accepts_three_of_exact (exact : Exact r v) : Accepts r 3 v := by
  intro order targets
  have posted := targets_posted targets exact.safe
  rcases exact_cases targets exact posted with answer | answer
  · right
    rw [answer]
    apply accepts_two_of_allCurrent
    · exact safe_of_outdated targets posted (extra_eq_nil targets exact) _
    · exact allCurrent_of_outdated posted (missing_eq_nil targets exact)
  · exact .inl answer

theorem accepts_three_of_othersCurrent (safe : Safe r v) (others : OthersCurrent r v) :
    Accepts r 3 v := by
  intro order targets
  have posted := targets_posted targets safe
  rcases judge_cases posted.sent with ⟨answer, -⟩ | ⟨answer, none_missing, none_extra⟩ | answer
  · right
    rw [answer]
    apply accepts_two_of_exact (exact_of_mismatched targets posted)
    intro d device other usable
    by_contra old
    obtain ⟨usable, old⟩ := repair_outdated usable (Bool.not_eq_true _ ▸ old)
    obtain ⟨usable, old⟩ := posted.outdated_before usable old
    exact absurd (old.symm.trans (others d device other usable)) Bool.false_ne_true
  · right
    rw [answer]
    apply accepts_two_of_allCurrent
    · exact safe_of_outdated targets posted none_extra _
    · exact allCurrent_of_outdated posted none_missing
  · exact .inl answer

/-- Four rounds are always enough: the roster, the outdated items, the roster again. -/
theorem accepts_four (safe : Safe r v) : Accepts r 4 v := by
  intro order targets
  have posted := targets_posted targets safe
  rcases judge_cases posted.sent with ⟨answer, -⟩ | ⟨answer, none_missing, none_extra⟩ | answer
  · right
    rw [answer]
    exact accepts_three_of_exact (exact_of_mismatched targets posted)
  · right
    rw [answer]
    apply Accepts.succ
    apply accepts_two_of_allCurrent
    · exact safe_of_outdated targets posted none_extra _
    · exact allCurrent_of_outdated posted none_missing
  · exact .inl answer

/-- After a batch that was lost, three rounds are enough, unless all three answers are
    still to come: the devices are not the roster's, a device other than the primary is
    outdated, and the primary one was not renewed on the way. -/
theorem accepts_three_of_posted (targets : IsTargets r v order) (safe : Safe r v)
    (posted : Posted r v order batch v')
    (mild : ¬ (v.ready r.primary = true ∧ ¬ Exact r v ∧ ¬ OthersCurrent r v)) :
    Accepts r 3 v' := by
  by_cases exact : Exact r v
  · exact accepts_three_of_exact (posted.exact targets exact)
  by_cases others : OthersCurrent r v
  · apply accepts_three_of_othersCurrent (posted.safe safe)
    intro d device other usable
    by_contra old
    obtain ⟨usable, old⟩ := posted.outdated_before usable (Bool.not_eq_true _ ▸ old)
    exact absurd (old.symm.trans (others d device other usable)) Bool.false_ne_true
  · have unusable : v.ready r.primary = false := by
      by_contra usable
      exact mild ⟨Bool.not_eq_false _ ▸ usable, exact, others⟩
    apply Accepts.succ
    apply accepts_two_of_allCurrent (posted.safe safe)
    intro d device _
    exact View.current_of_renewed
      (posted.renewedAll ((targets _).mpr (.inl rfl)) unusable d device)

end SignalService.Repair
