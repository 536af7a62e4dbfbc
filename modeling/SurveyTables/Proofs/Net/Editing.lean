import SurveyTables.Proofs.Net.Sync

/-!
# Nets under editing

The nets of a question stay in order through any course of edits.

* `Net.Synced` : the nets that syncing leaves as they are. Syncing gives nothing else
  (`Net.synced_of_sync?`, `Net.Synced.sync?_eq`), and they have no fault
  (`Net.Synced.problems_eq_nil`);
* `Nets.Clean` : nets that are all so (`Nets.clean_sync`);
* `Nets.Edit` : the four edits; `Edit.apply_eq` says once what each of them does;
* `Nets.Session` : the nets in the course of editing, with the codes on offer at the last edit that
  was made; `Session.sound_step`, `Session.sound_run` : the nets are clean for these codes;
* `Nets.sync_append` : syncing goes net by net, so an edit of clean nets is seen in one place only;
* `Nets.clean_after_edits` : all of this together.
-/

namespace SurveyTables

/-! ## One net -/

theorem eraseDups_of_nodup : ∀ {l : List String}, l.Nodup → l.eraseDups = l
  | [], _ => rfl
  | a :: l, h => by
    obtain ⟨ha, hl⟩ := List.nodup_cons.1 h
    have hrest : (l.filter fun b => !b == a) = l := by
      rw [List.filter_eq_self]
      intro b hb
      have hne : b ≠ a := fun e => ha (e ▸ hb)
      simpa using hne
    rw [List.eraseDups_cons, hrest, eraseDups_of_nodup hl]

namespace Net

/-- The net is as syncing leaves it. -/
inductive Synced (valid : List String) : Net → Prop
  | codes (n : CodesNet) (ne_nil : n.codes ≠ []) (offered : ∀ c ∈ n.codes, c ∈ valid)
      (distinct : n.codes.Nodup) : Synced valid (.codes n)
  | range (n : RangeNet) (wellFormed : n.wellFormed) : Synced valid (.range n)

variable {valid : List String} {n m : Net}

theorem synced_of_sync? (h : n.sync? valid = some m) : m.Synced valid := by
  obtain ⟨c, rfl, hne, rfl⟩ | ⟨r, rfl, hw, rfl⟩ := sync?_cases h
  · exact .codes _ hne (fun c hc => (CodesNet.mem_kept.1 hc).2) (nodup_eraseDups _)
  · exact .range r hw

theorem Synced.sync?_eq (h : n.Synced valid) : n.sync? valid = some n := by
  cases h with
  | codes n ne_nil offered distinct =>
    have hkept : n.kept valid = n.codes := by
      rw [CodesNet.kept_eq_eraseDups_iff.2 offered, eraseDups_of_nodup distinct]
    rw [sync?_codes, hkept, if_neg ne_nil]
  | range n wellFormed => exact if_pos wellFormed

theorem Synced.problems_eq_nil (h : n.Synced valid) : n.problems valid = [] := by
  cases h with
  | codes n ne_nil offered distinct => exact codesProblems_eq_nil_iff.2 ⟨ne_nil, offered⟩
  | range n wellFormed =>
    exact (rangeProblems_eq_nil_iff n.label).2 ⟨n.value1, rfl, wellFormed⟩

end Net

/-! ## All nets of a question -/

namespace Nets

variable {valid : List String} {nets : Nets}

/-- No net has a fault, no codes net holds a code twice, and nothing is left to sync. -/
structure Clean (valid : List String) (nets : Nets) : Prop where
  problems : ∀ n ∈ nets, n.problems valid = []
  distinct : ∀ c, .codes c ∈ nets → c.codes.Nodup
  synced : sync valid nets = nets

theorem sync_eq_self_iff : sync valid nets = nets ↔ ∀ n ∈ nets, n.Synced valid := by
  constructor
  · intro h n hn
    rw [← h, sync, List.mem_filterMap] at hn
    obtain ⟨m, -, hm⟩ := hn
    exact Net.synced_of_sync? hm
  · intro h
    rw [sync, List.filterMap_congr fun n hn => (h n hn).sync?_eq]
    exact List.filterMap_some

theorem clean_of_synced (h : ∀ n ∈ nets, n.Synced valid) : Clean valid nets where
  problems n hn := (h n hn).problems_eq_nil
  distinct c hc := by
    cases h _ hc with
    | codes _ _ _ distinct => exact distinct
  synced := sync_eq_self_iff.2 h

/-- Whatever the nets were, they are clean when they have been synced. -/
theorem clean_sync (valid : List String) (nets : Nets) : Clean valid (sync valid nets) := by
  apply clean_of_synced
  intro n hn
  obtain ⟨m, -, hm⟩ := List.mem_filterMap.1 hn
  exact Net.synced_of_sync? hm

/-! ## Edits -/

/-- An edit of the nets of a question. -/
inductive Edit where
  | sync
  | add (n : Net)
  | update (index : Nat) (n : Net)
  | delete (index : Nat)

namespace Edit

/-- The place of an edit that is made at one. -/
def index? : Edit → Option Nat
  | .sync => none
  | .add _ => none
  | .update i _ => some i
  | .delete i => some i

/-- The nets that an edit leaves for syncing. -/
def change (nets : Nets) : Edit → Nets
  | .sync => nets
  | .add n => nets ++ [n]
  | .update i n => nets.set i n
  | .delete i => nets.eraseIdx i

def apply (valid : List String) (nets : Nets) : Edit → Except NetError Nets
  | .sync => .ok (Nets.sync valid nets)
  | .add n => .ok (Nets.add valid nets n)
  | .update i n => Nets.update valid nets i n
  | .delete i => Nets.delete valid nets i

/-- An edit at a place that the list does not have is refused; any other is made and synced. -/
theorem apply_eq (valid : List String) (nets : Nets) (e : Edit) :
    e.apply valid nets =
      match e.index? with
      | none => .ok (Nets.sync valid (e.change nets))
      | some i =>
        if i < nets.length then .ok (Nets.sync valid (e.change nets))
        else .error (.indexOutOfBounds i nets.length) := by
  cases e <;> rfl

theorem apply_of_lt {e : Edit} (h : ∀ i ∈ e.index?, i < nets.length) :
    e.apply valid nets = .ok (Nets.sync valid (e.change nets)) := by
  rw [apply_eq]
  cases hi : e.index? with
  | none => rfl
  | some i => exact if_pos (h i hi)

theorem apply_of_le {e : Edit} {i : Nat} (hi : i ∈ e.index?) (h : nets.length ≤ i) :
    e.apply valid nets = .error (.indexOutOfBounds i nets.length) := by
  have hidx : e.index? = some i := hi
  rw [apply_eq, hidx]
  exact if_neg (Nat.not_lt.2 h)

theorem apply_eq_error_iff (e : Edit) :
    (∃ err, e.apply valid nets = .error err) ↔ ∃ i ∈ e.index?, nets.length ≤ i := by
  constructor
  · rintro ⟨err, herr⟩
    by_contra hno
    have hlt : ∀ i ∈ e.index?, i < nets.length := by
      intro i hi
      by_contra hge
      exact hno ⟨i, hi, Nat.not_lt.1 hge⟩
    rw [apply_of_lt hlt] at herr
    cases herr
  · rintro ⟨i, hi, hle⟩
    exact ⟨_, apply_of_le hi hle⟩

theorem clean_of_apply {e : Edit} {after : Nets} (h : e.apply valid nets = .ok after) :
    Clean valid after := by
  rw [apply_eq] at h
  split at h
  · cases h
    exact clean_sync valid _
  · split at h
    · cases h
      exact clean_sync valid _
    · cases h

end Edit

/-! ## A course of edits -/

/-- An edit with the codes on offer when it is made. -/
structure Request where
  valid : List String
  edit : Edit

/-- The nets in the course of editing, and the codes on offer at the last edit that was made. -/
structure Session where
  nets : Nets
  offered : Option (List String)

namespace Session

/-- An edit that is refused leaves everything as it was. -/
def step (s : Session) (r : Request) : Session :=
  match r.edit.apply r.valid s.nets with
  | .ok nets => ⟨nets, some r.valid⟩
  | .error _ => s

def run (s : Session) (history : List Request) : Session := history.foldl step s

def Sound (s : Session) : Prop := ∀ valid ∈ s.offered, Clean valid s.nets

theorem sound_step {s : Session} (h : s.Sound) (r : Request) : (s.step r).Sound := by
  unfold step
  split
  · rename_i nets hr
    rintro valid ⟨⟩
    exact Edit.clean_of_apply hr
  · exact h

theorem sound_run {s : Session} (h : s.Sound) (history : List Request) : (s.run history).Sound := by
  induction history generalizing s with
  | nil => exact h
  | cons r history ih => exact ih (sound_step h r)

theorem step_of_ok {s : Session} {r : Request} {nets : Nets}
    (h : r.edit.apply r.valid s.nets = .ok nets) : s.step r = ⟨nets, some r.valid⟩ := by
  rw [step, h]

theorem step_of_error {s : Session} {r : Request} {e : NetError}
    (h : r.edit.apply r.valid s.nets = .error e) : s.step r = s := by
  rw [step, h]

end Session

/-! ## Edits of clean nets -/

theorem sync_append (valid : List String) (l m : Nets) :
    sync valid (l ++ m) = sync valid l ++ sync valid m :=
  List.filterMap_append

theorem sync_singleton (valid : List String) (n : Net) :
    sync valid [n] = (n.sync? valid).toList := by
  rw [sync, List.filterMap_cons]
  cases n.sync? valid <;> rfl

theorem sync_of_subset {part : Nets} (h : sync valid nets = nets) (hp : part ⊆ nets) :
    sync valid part = part :=
  sync_eq_self_iff.2 fun n hn => sync_eq_self_iff.1 h n (hp hn)

section
variable (h : sync valid nets = nets)
include h

theorem add_eq (n : Net) : add valid nets n = nets ++ (n.sync? valid).toList := by
  rw [add, sync_append, h, sync_singleton]

theorem update_eq {i : Nat} (hi : i < nets.length) (n : Net) :
    update valid nets i n =
      .ok (nets.take i ++ (n.sync? valid).toList ++ nets.drop (i + 1)) := by
  rw [update, if_pos hi, List.set_eq_take_append_cons_drop, if_pos hi, ← List.singleton_append,
    sync_append, sync_append, sync_of_subset h (List.take_subset i nets), sync_singleton,
    sync_of_subset h (List.drop_subset (i + 1) nets), List.append_assoc]

theorem delete_eq {i : Nat} (hi : i < nets.length) :
    delete valid nets i = .ok (nets.take i ++ nets.drop (i + 1)) := by
  rw [delete, if_pos hi, List.eraseIdx_eq_take_drop_succ, sync_append,
    sync_of_subset h (List.take_subset i nets), sync_of_subset h (List.drop_subset (i + 1) nets)]

end

/-- After any course of edits the nets are clean for the codes on offer at the last one that was
made. The next edit is refused exactly if it is at a place that the list does not have, and then
changes nothing; otherwise the nets are clean for its own codes. In clean nets an edit is seen at
its place alone. -/
theorem clean_after_edits (start : Nets) (history : List Request) :
    let s := Session.run ⟨start, none⟩ history
    (∀ valid ∈ s.offered, Clean valid s.nets) ∧
      (∀ r : Request,
        ((∃ e, r.edit.apply r.valid s.nets = .error e) ↔
            ∃ i ∈ r.edit.index?, s.nets.length ≤ i) ∧
          (∀ i ∈ r.edit.index?, s.nets.length ≤ i →
            r.edit.apply r.valid s.nets = .error (.indexOutOfBounds i s.nets.length) ∧
              s.step r = s) ∧
          ((∀ i ∈ r.edit.index?, i < s.nets.length) →
            ∃ nets, r.edit.apply r.valid s.nets = .ok nets ∧ s.step r = ⟨nets, some r.valid⟩ ∧
              Clean r.valid nets)) ∧
      ∀ (valid : List String) (nets : Nets), sync valid nets = nets →
        (∀ n, add valid nets n = nets ++ (n.sync? valid).toList) ∧
          (∀ i < nets.length, ∀ n, update valid nets i n =
            .ok (nets.take i ++ (n.sync? valid).toList ++ nets.drop (i + 1))) ∧
          ∀ i < nets.length, delete valid nets i = .ok (nets.take i ++ nets.drop (i + 1)) := by
  intro s
  have hstart : Session.Sound ⟨start, none⟩ := by rintro valid ⟨⟩
  refine ⟨Session.sound_run hstart history, fun r => ⟨?_, ?_, ?_⟩, ?_⟩
  · exact Edit.apply_eq_error_iff r.edit
  · intro i hi hle
    have happly : r.edit.apply r.valid s.nets = .error (.indexOutOfBounds i s.nets.length) :=
      Edit.apply_of_le hi hle
    exact ⟨happly, Session.step_of_error happly⟩
  · intro hlt
    have happly : r.edit.apply r.valid s.nets = .ok (sync r.valid (r.edit.change s.nets)) :=
      Edit.apply_of_lt hlt
    exact ⟨_, happly, Session.step_of_ok happly, Edit.clean_of_apply happly⟩
  · intro valid nets h
    exact ⟨add_eq h, fun i hi n => update_eq h hi n, fun i hi => delete_eq h hi⟩

/-- A box with a code too many and a range without numbers, synced; then an edit behind the end, and
one that leaves nothing. -/
theorem clean_after_edits_boxes :
    let start : Nets :=
      [.codes ⟨some "T2B", ["4", "5", "5", "9"]⟩, .range ⟨none, .between, 5, some 1⟩]
    let s := Session.run ⟨start, none⟩ [⟨["4", "5"], .sync⟩]
    s.nets = [.codes ⟨some "T2B", ["4", "5"]⟩] ∧ Clean ["4", "5"] s.nets ∧
      Edit.apply ["4", "5"] s.nets (.delete 1) = .error (.indexOutOfBounds 1 1) ∧
      update ["4", "5"] s.nets 0 (.codes ⟨none, ["9"]⟩) = .ok [] := by
  intro start s
  have hnets : s.nets = [.codes ⟨some "T2B", ["4", "5"]⟩] := by decide +kernel
  have hlength : s.nets.length = 1 := congrArg List.length hnets
  obtain ⟨hclean, hnext, hedit⟩ := clean_after_edits start [⟨["4", "5"], .sync⟩]
  have hdelete : Edit.apply ["4", "5"] s.nets (.delete 1) =
      .error (.indexOutOfBounds 1 s.nets.length) :=
    ((hnext ⟨["4", "5"], .delete 1⟩).2.1 1 rfl (Nat.le_of_eq hlength)).1
  have hupdate := (hedit ["4", "5"] s.nets (hclean _ rfl).synced).2.1 0 (by rw [hlength]; decide)
    (.codes ⟨none, ["9"]⟩)
  refine ⟨hnets, hclean _ rfl, ?_, ?_⟩
  · rw [hdelete, hlength]
  · rw [hupdate, hnets]
    rfl

end Nets

end SurveyTables
