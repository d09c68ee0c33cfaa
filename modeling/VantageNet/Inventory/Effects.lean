import VantageNet.Interaction.Ensures
import VantageNet.Interaction.Monitor
import VantageNet.Inventory.Services

/-!
What the statements to the database do to its tables.
-/

namespace VantageNet.Inventory

open Interaction Interaction.Program

theorem clash_comm (k : Kind) (a b : Row k) : clash k a b = clash k b a := by
  cases k with
  | interface | port | groupBinding => simp only [clash, eq_comm]
  | _ => rfl

instance (k : Kind) : Std.Symm (Apart k) where
  symm a b h := ⟨h.1.symm, by rw [clash_comm]; exact h.2⟩

theorem eq_of_id_eq {k : Kind} {t : Rows k} {a b : Row k} (ha : a ∈ t.rows) (hb : b ∈ t.rows) (h : a.id = b.id) :
    a = b := t.eq_of_key_eq (fun _ _ hapart => hapart.1) ha hb h

theorem eq_of_clash {k : Kind} {t : Rows k} {a b : Row k} (ha : a ∈ t.rows) (hb : b ∈ t.rows)
    (h : clash k a b = true) : a = b := by
  by_contra hne
  rw [(t.pairwise.forall ha hb hne).2] at h
  cases h

theorem find_id_eq_some_iff {k : Kind} {t : Rows k} {a : Row k} {id : Uuid} :
    t.rows.find? (fun r => r.id = id) = some a ↔ a ∈ t.rows ∧ a.id = id :=
  t.find?_key_eq_some_iff (fun _ _ hapart => hapart.1)

section tables

variable (db : Db)

@[simp]
theorem table_withTable (k : Kind) (t : Rows k) : (db.withTable k t).table k = t := by
  cases k <;> rfl

theorem table_withTable_of_ne {j k : Kind} (h : j ≠ k) (t : Rows k) : (db.withTable k t).table j = db.table j := by
  cases k <;> cases j <;> first | rfl | exact absurd rfl h

theorem has_iff (k : Kind) (id : Uuid) : db.has k id = true ↔ ∃ r ∈ (db.table k).rows, r.id = id := by
  simp [Db.has]

theorem id_columns (k : Kind) (row : Row k) : (columns k row).id = row.id := by
  cases k <;> rfl

/-- The table after an accepted `UPDATE` of a row that is there. -/
def updated {k : Kind} (t : Rows k) (row : Row k)
    (h : ∀ r ∈ (t.filter (fun r => r.id ≠ row.id)).rows, Apart k r (columns k row)) : Rows k :=
  (t.filter (fun r => r.id ≠ row.id)).insert (columns k row) h

theorem mem_updated {k : Kind} {t : Rows k} {row : Row k}
    {h : ∀ r ∈ (t.filter (fun r => r.id ≠ row.id)).rows, Apart k r (columns k row)} {r : Row k} :
    r ∈ (updated t row h).rows ↔ r = columns k row ∨ r ∈ t.rows ∧ r.id ≠ row.id := by
  simp [updated, or_comm]

theorem create_cases (k : Kind) (row : Row k) (a : Except Error Unit) :
    (∃ e, db.create k row a = (.error e, db)) ∨
    ∃ h : ∀ r ∈ (db.table k).rows, Apart k r (columns k row), db.refers k row = true ∧
      db.create k row a = (.ok (), db.withTable k ((db.table k).insert (columns k row) h)) := by
  rcases a with e | ⟨⟩
  · exact .inl ⟨e, rfl⟩
  · unfold Db.create
    by_cases h : ∀ r ∈ (db.table k).rows, Apart k r (columns k row)
    · cases hrefers : db.refers k row with
      | true => exact .inr ⟨h, rfl, by simp only [dif_pos h, ↓reduceIte]⟩
      | false => exact .inl ⟨_, by simp only [dif_pos h, Bool.false_eq_true, ↓reduceIte]; rfl⟩
    · exact .inl ⟨_, by simp only [dif_neg h]; rfl⟩

theorem update_cases (k : Kind) (row : Row k) (a : Except Error Unit) :
    (∃ e, db.update k row a = (.error e, db)) ∨
    (db.has k row.id = false ∧ db.update k row a = (.ok (), db)) ∨
    ∃ h : ∀ r ∈ ((db.table k).filter (fun r => r.id ≠ row.id)).rows, Apart k r (columns k row),
      db.has k row.id = true ∧ db.refers k row = true ∧
      db.update k row a = (.ok (), db.withTable k (updated (db.table k) row h)) := by
  rcases a with e | ⟨⟩
  · exact .inl ⟨e, rfl⟩
  · unfold Db.update
    cases hhas : db.has k row.id with
    | false => exact .inr (.inl ⟨rfl, by simp only [Bool.false_eq_true, ↓reduceIte]⟩)
    | true =>
      by_cases h : ∀ r ∈ ((db.table k).filter (fun r => r.id ≠ row.id)).rows, Apart k r (columns k row)
      · cases hrefers : db.refers k row with
        | true => exact .inr (.inr ⟨h, rfl, rfl, by simp only [dif_pos h, ↓reduceIte]; rfl⟩)
        | false => exact .inl ⟨_, by simp only [dif_pos h, Bool.false_eq_true, ↓reduceIte]; rfl⟩
      · exact .inl ⟨_, by simp only [↓reduceIte, dif_neg h]; rfl⟩

end tables

/-- Only tables among `K` changed from `db` to `t`. -/
def Db.SameBut (K : List Kind) (db t : Db) : Prop := ∀ k, k ∉ K → t.table k = db.table k

namespace Db.SameBut

variable {K js : List Kind} {db t u : Db}

theorem refl (K : List Kind) (db : Db) : db.SameBut K db := fun _ _ => rfl

theorem trans (h : db.SameBut K t) (h' : t.SameBut K u) : db.SameBut K u :=
  fun k hk => (h' k hk).trans (h k hk)

theorem mono (h : db.SameBut K t) (hks : K ⊆ js) : db.SameBut js t := fun k hk => h k (fun hmem => hk (hks hmem))

theorem withTable {k : Kind} (hk : k ∈ K) (t : Rows k) : db.SameBut K (db.withTable k t) := by
  intro j hj
  apply table_withTable_of_ne
  rintro rfl
  exact hj hk

theorem eq (h : db.SameBut [] t) : t = db := by
  have hhosts := h .host (by simp)
  have hinterfaces := h .interface (by simp)
  have hports := h .port (by simp)
  have hservices := h .service (by simp)
  have hbindings := h .binding (by simp)
  have hgroups := h .group (by simp)
  have hmembers := h .groupBinding (by simp)
  cases t
  cases db
  simp_all only [Db.table]

end Db.SameBut

/-- The tables a `DELETE` may reach, through `ON DELETE CASCADE` too. -/
def Kind.cascade : Kind → List Kind
  | .host => [.host, .interface, .port, .service, .binding, .groupBinding]
  | .interface => [.interface, .binding, .groupBinding]
  | .port => [.port, .binding, .groupBinding]
  | .service => [.service, .binding, .groupBinding]
  | .binding => [.binding, .groupBinding]
  | .group => [.group, .groupBinding]
  | .groupBinding => [.groupBinding]

def DbOp.writes : DbOp → List Kind
  | .create k _ | .update k _ => [k]
  | .delete k _ => k.cascade
  | _ => []

theorem sameBut_delete (db : Db) (k : Kind) (p : Row k → Bool) : db.SameBut k.cascade (db.delete k p) := by
  intro j hj
  cases k <;> cases j <;> first | rfl | simp [Kind.cascade] at hj

theorem table_delete (db : Db) (k : Kind) (p : Row k → Bool) : (db.delete k p).table k = (db.table k).filter (fun r => !p r) := by
  cases k <;> rfl

theorem mem_delete {db : Db} {j k : Kind} {p : Row j → Bool} {r : Row k} (h : r ∈ ((db.delete j p).table k).rows) :
    r ∈ (db.table k).rows := by
  cases j <;> cases k <;> first | exact h | exact (List.mem_filter.mp h).1

/-- How a row comes into a table. -/
theorem mem_dbStep {db : Db} {o : DbOp} {a : o.Reply} {k : Kind} {r : Row k}
    (h : r ∈ ((dbStep o a db).2.table k).rows) :
    r ∈ (db.table k).rows ∨
    (∃ row, o = .create k row ∧ r = columns k row ∧ (∀ r' ∈ (db.table k).rows, Apart k r' (columns k row)) ∧
      db.refers k row = true) ∨
    ∃ row, o = .update k row ∧ r = columns k row ∧ db.has k row.id = true ∧ db.refers k row = true := by
  cases o with
  | create j row =>
    change r ∈ ((db.create j row a).2.table k).rows at h
    rcases create_cases db j row a with ⟨e, heq⟩ | ⟨hapart, hrefers, heq⟩
    · rw [heq] at h
      exact .inl h
    · rw [heq] at h
      by_cases hkj : k = j
      · subst hkj
        rw [table_withTable] at h
        rcases List.mem_append.mp h with h | h
        · exact .inl h
        · exact .inr (.inl ⟨row, rfl, List.mem_singleton.mp h, hapart, hrefers⟩)
      · rw [table_withTable_of_ne db hkj] at h
        exact .inl h
  | update j row =>
    change r ∈ ((db.update j row a).2.table k).rows at h
    rcases update_cases db j row a with ⟨e, heq⟩ | ⟨-, heq⟩ | ⟨hapart, hhas, hrefers, heq⟩
    · rw [heq] at h
      exact .inl h
    · rw [heq] at h
      exact .inl h
    · rw [heq] at h
      by_cases hkj : k = j
      · subst hkj
        rw [table_withTable] at h
        rcases (mem_updated (h := hapart)).mp h with h | ⟨h, -⟩
        · exact .inr (.inr ⟨row, rfl, h, hhas, hrefers⟩)
        · exact .inl h
      · rw [table_withTable_of_ne db hkj] at h
        exact .inl h
  | delete j p =>
    rcases a with e | ⟨⟩
    · exact .inl h
    · exact .inl (mem_delete h)
  | _ => exact .inl h

/-- Only a `DELETE` takes an id out of a table. -/
theorem has_dbStep {db : Db} {o : DbOp} {a : o.Reply} {k : Kind} {id : Uuid} (ho : ∀ j p, o ≠ .delete j p)
    (h : db.has k id = true) : (dbStep o a db).2.has k id = true := by
  rw [has_iff] at h ⊢
  obtain ⟨r, hr, rfl⟩ := h
  cases o with
  | create j row =>
    change ∃ r' ∈ ((db.create j row a).2.table k).rows, _
    rcases create_cases db j row a with ⟨e, heq⟩ | ⟨hapart, -, heq⟩
    · exact ⟨r, by rw [heq]; exact hr, rfl⟩
    · rw [heq]
      by_cases hkj : k = j
      · subst hkj
        exact ⟨r, by rw [table_withTable]; exact List.mem_append_left _ hr, rfl⟩
      · exact ⟨r, by rw [table_withTable_of_ne db hkj]; exact hr, rfl⟩
  | update j row =>
    change ∃ r' ∈ ((db.update j row a).2.table k).rows, _
    rcases update_cases db j row a with ⟨e, heq⟩ | ⟨-, heq⟩ | ⟨hapart, -, -, heq⟩
    · exact ⟨r, by rw [heq]; exact hr, rfl⟩
    · exact ⟨r, by rw [heq]; exact hr, rfl⟩
    · rw [heq]
      by_cases hkj : k = j
      · subst hkj
        rw [table_withTable]
        by_cases hid : r.id = row.id
        · exact ⟨columns k row, mem_updated.mpr (.inl rfl), (id_columns k row).trans hid.symm⟩
        · exact ⟨r, mem_updated.mpr (.inr ⟨hr, hid⟩), rfl⟩
      · exact ⟨r, by rw [table_withTable_of_ne db hkj]; exact hr, rfl⟩
  | delete j p => exact absurd rfl (ho j p)
  | _ => exact ⟨r, hr, rfl⟩

/-- A reading answers with rows that meet its filter. -/
def DbOp.honest : (o : DbOp) → o.Reply → Prop
  | .list _ filter _, .ok rows => ∀ r ∈ rows, filter r = true
  | _, _ => True

theorem honest_dbStep (o : DbOp) (a : o.Reply) (db : Db) : o.honest (dbStep o a db).1 := by
  cases o with
  | list k filter order =>
    rcases a with e | proposed
    · trivial
    · intro r hr
      exact (List.mem_filter.mp ((arrange_perm order _ proposed).mem_iff.mp hr)).2
  | _ => trivial

theorem sameBut_dbStep (o : DbOp) (a : o.Reply) (db : Db) : db.SameBut o.writes (dbStep o a db).2 := by
  cases o with
  | create k row =>
    change db.SameBut [k] (db.create k row a).2
    rcases create_cases db k row a with ⟨e, heq⟩ | ⟨h, -, heq⟩
    · rw [heq]
      exact .refl _ _
    · rw [heq]
      exact .withTable (by simp) _
  | update k row =>
    change db.SameBut [k] (db.update k row a).2
    rcases update_cases db k row a with ⟨e, heq⟩ | ⟨-, heq⟩ | ⟨h, -, -, heq⟩
    · rw [heq]
      exact .refl _ _
    · rw [heq]
      exact .refl _ _
    · rw [heq]
      exact .withTable (by simp) _
  | delete k p =>
    rcases a with e | ⟨⟩
    · exact .refl _ _
    · exact sameBut_delete db k p
  | _ => exact .refl _ _

def writing (K : List Kind) : Monitor dbSig Unit :=
  ⟨fun _ o => DbOp.writes o ⊆ K, fun _ _ => True, fun a _ _ => a⟩

/-- A program that writes no table outside `K`. -/
def Touches {α : Type} (K : List Kind) (p : Query α) : Prop := Follows (writing K) (fun _ b => b = ()) () p

section touches

variable {α β : Type} {K : List Kind} {p : Query α} {f : α → Query β}

theorem Touches.bind (hp : Touches K p) (hf : ∀ a, Touches K (f a)) : Touches K (p.bind f) :=
  Follows.seq hp hf

theorem Touches.op {o : DbOp} {k : o.Reply → Query α} (ho : o.writes ⊆ K) (hk : ∀ r, Touches K (k r)) :
    Touches K (.op o k) := ⟨ho, fun r _ => hk r⟩

theorem Touches.ret (a : α) : Touches K (.ret a) := rfl

theorem Touches.fail (e : Error) : Touches K (.fail e : Query α) := trivial

theorem Touches.orFail (r : Except Error α) : Touches K (orFail r) := by
  cases r with
  | ok a => exact .ret a
  | error e => exact .fail e

theorem Touches.when {p : Query Unit} (b : Bool) (hp : Touches K p) : Touches K (when b p) := Follows.when b hp

theorem Touches.forEach {f : β → Query Unit} (hf : ∀ x, Touches K (f x)) (xs : List β) :
    Touches K (forEach f xs) := Follows.forEach hf xs

theorem Touches.collect {f : β → Query α} (hf : ∀ x, Touches K (f x)) (xs : List β) :
    Touches K (collect f xs) := Follows.collect (fun x _ => hf x)

theorem Touches.ensures {may : Db → (o : DbOp) → o.Reply → Prop} (hp : Touches K p) (db : Db) :
    Ensures dbStep may (fun _ t => db.SameBut K t) p db := by
  have hfrom (t : Db) (ht : db.SameBut K t) : Ensures dbStep may (fun _ t => db.SameBut K t) p t := by
    induction p generalizing t with
    | ret a => exact ht
    | fail e => exact ht
    | op o k ih => exact fun r _ => ih _ (hp.2 _ trivial) _ (ht.trans ((sameBut_dbStep o r t).mono hp.1))
  exact hfrom db (.refl _ _)

/-- Such a program first, and then `f` in whatever state it leaves. -/
theorem Touches.returns {may : Db → (o : DbOp) → o.Reply → Prop} (hp : Touches K p) (db : Db) :
    Returns dbStep may (fun _ t => db.SameBut K t) p db := (hp.ensures db).imp (fun _ _ h _ _ => h)

theorem Touches.then {may : Db → (o : DbOp) → o.Reply → Prop} {post : Except Error β → Db → Prop} {db : Db}
    (hp : Touches K p) (herror : ∀ e t, db.SameBut K t → post (.error e) t)
    (hf : ∀ a t, db.SameBut K t → Ensures dbStep may post (f a) t) : Ensures dbStep may post (p.bind f) db := by
  apply Ensures.bind
  apply (hp.ensures db).imp
  rintro (e | a) t ht
  · exact herror e t ht
  · exact hf a t ht

end touches

/-- The foreign key of the bindings. -/
def Db.Owned (db : Db) : Prop := ∀ b ∈ db.bindings.rows, ∃ s ∈ db.services.rows, s.id = b.base.serviceId

instance (db : Db) : Decidable db.Owned :=
  inferInstanceAs (Decidable (∀ b ∈ db.bindings.rows, ∃ s ∈ db.services.rows, s.id = b.base.serviceId))

section owned

variable {db : Db}

theorem Db.Owned.of_eq (h : db.Owned) {t : Db} (hservices : t.services = db.services)
    (hbindings : t.bindings = db.bindings) : t.Owned := by
  unfold Db.Owned
  rw [hservices, hbindings]
  exact h

theorem Db.Owned.delete (h : db.Owned) (k : Kind) (p : Row k → Bool) : (db.delete k p).Owned := by
  cases k with
  | group | groupBinding => exact h.of_eq rfl rfl
  | interface | port | binding =>
    intro b hb
    exact h b (List.mem_filter.mp hb).1
  | service =>
    intro b hb
    obtain ⟨hb, hkept⟩ := List.mem_filter.mp hb
    obtain ⟨s, hs, hid⟩ := h b hb
    refine ⟨s, List.mem_filter.mpr ⟨hs, ?_⟩, hid⟩
    cases hp : p s with
    | false => rfl
    | true =>
      have hany : db.services.rows.any (fun s => p s && b.base.serviceId = s.id) = true :=
        List.any_eq_true.mpr ⟨s, hs, by simp [hp, hid]⟩
      simp [hany] at hkept
  | host =>
    intro b hb
    obtain ⟨hb, hkept⟩ := List.mem_filter.mp hb
    obtain ⟨s, hs, hid⟩ := h b hb
    refine ⟨s, List.mem_filter.mpr ⟨hs, ?_⟩, hid⟩
    cases hp : Db.delete.onDeleted db s.base.hostId p with
    | false => rfl
    | true =>
      have hany : db.services.rows.any (fun s => Db.delete.onDeleted db s.base.hostId p &&
          b.base.serviceId = s.id) = true := List.any_eq_true.mpr ⟨s, hs, by simp [hp, hid]⟩
      simp [hany] at hkept

theorem Db.Owned.dbStep (h : db.Owned) (o : DbOp) (a : o.Reply) : (dbStep o a db).2.Owned := by
  by_cases ho : ∀ j p, o ≠ .delete j p
  · intro b hb
    apply (has_iff _ .service _).mp
    apply has_dbStep ho
    have hrefers {row : Binding} (hrow : db.refers .binding row = true) :
        db.has .service row.base.serviceId = true := by
      simp only [Db.refers, Bool.and_eq_true] at hrow
      exact hrow.1.1
    rcases mem_dbStep (k := .binding) hb with hb | ⟨row, -, rfl, -, hrow⟩ | ⟨row, -, rfl, -, hrow⟩
    · exact (has_iff db .service _).mpr (h b hb)
    · exact hrefers hrow
    · exact hrefers hrow
  · push Not at ho
    obtain ⟨k, p, rfl⟩ := ho
    rcases a with e | ⟨⟩
    · exact h
    · exact h.delete k p

end owned

/-- The foreign key of the members of a group into the bindings. -/
def Db.Linked (db : Db) : Prop := ∀ m ∈ db.groupBindings.rows, ∃ b ∈ db.bindings.rows, b.id = m.base.bindingId

instance (db : Db) : Decidable db.Linked :=
  inferInstanceAs (Decidable (∀ m ∈ db.groupBindings.rows, ∃ b ∈ db.bindings.rows, b.id = m.base.bindingId))

section linked

variable {db : Db}

theorem Db.Linked.deleteBindings (h : db.Linked) (p : Binding → Bool) : (db.deleteBindings p).Linked := by
  intro m hm
  obtain ⟨hm, hkept⟩ := List.mem_filter.mp hm
  obtain ⟨b, hb, hid⟩ := h m hm
  refine ⟨b, List.mem_filter.mpr ⟨hb, ?_⟩, hid⟩
  cases hp : p b with
  | false => rfl
  | true =>
    have hany : db.bindings.rows.any (fun b => p b && b.id = m.base.bindingId) = true :=
      List.any_eq_true.mpr ⟨b, hb, by simp [hp, hid]⟩
    simp [hany] at hkept

theorem Db.Linked.dbStep (h : db.Linked) (o : DbOp) (a : o.Reply) : (dbStep o a db).2.Linked := by
  by_cases ho : ∀ j p, o ≠ .delete j p
  · intro m hm
    apply (has_iff _ .binding _).mp
    apply has_dbStep ho
    have hrefers {row : GroupBinding} (hrow : db.refers .groupBinding row = true) :
        db.has .binding row.base.bindingId = true := by
      simp only [Db.refers, Bool.and_eq_true] at hrow
      exact hrow.2
    rcases mem_dbStep (k := .groupBinding) hm with hm | ⟨row, -, rfl, -, hrow⟩ | ⟨row, -, rfl, -, hrow⟩
    · exact (has_iff db .binding _).mpr (h m hm)
    · exact hrefers hrow
    · exact hrefers hrow
  · push Not at ho
    obtain ⟨k, p, rfl⟩ := ho
    rcases a with e | ⟨⟩
    · exact h
    · cases k with
      | host | interface | port | service | binding => exact h.deleteBindings _
      | group | groupBinding => exact fun m hm => h m (List.mem_filter.mp hm).1

end linked

section statements

variable {may : Db → (o : DbOp) → o.Reply → Prop} {db : Db}

theorem ensures_getById {k : Kind} {id : Uuid} {post : Except Error (Option (Row k)) → Db → Prop}
    (herror : ∀ e, post (.error e) db)
    (hok : post (.ok ((db.table k).rows.find? (fun r => r.id = id))) db) :
    Ensures dbStep may post (Storage.getById k id) db := by
  intro r _
  rcases r with e | r
  · exact herror e
  · exact hok

theorem ensures_getAllOrdered {k : Kind} {filter : Row k → Bool} {order : Row k → ℤ}
    {post : Except Error (List (Row k)) → Db → Prop} (herror : ∀ e, post (.error e) db)
    (hok : ∀ rows, rows.Perm ((db.table k).rows.filter filter) → rows.Pairwise (fun a b => order a ≤ order b) →
      post (.ok rows) db) :
    Ensures dbStep may post (Storage.getAllOrdered k filter order) db := by
  intro r _
  rcases r with e | r
  · exact herror e
  · exact hok _ (arrange_perm order _ r) (arrange_sorted order _ r)

theorem ensures_getAll {k : Kind} {filter : Row k → Bool} {post : Except Error (List (Row k)) → Db → Prop}
    (herror : ∀ e, post (.error e) db)
    (hok : ∀ rows, rows.Perm ((db.table k).rows.filter filter) →
      rows.Pairwise (fun a b => a.createdAt ≤ b.createdAt) → post (.ok rows) db) :
    Ensures dbStep may post (Storage.getAll k filter) db := ensures_getAllOrdered herror hok

theorem ensures_create {k : Kind} {row : Row k} {post : Except Error (Row k) → Db → Prop}
    (herror : ∀ e, post (.error e) db)
    (hok : ∀ h : ∀ r ∈ (db.table k).rows, Apart k r (columns k row), db.refers k row = true →
      post (.ok row) (db.withTable k ((db.table k).insert (columns k row) h))) :
    Ensures dbStep may post (Storage.create k row) db := by
  intro r _
  change Ensures dbStep may post ((orFail (db.create k row r).1).bind _) (db.create k row r).2
  rcases create_cases db k row r with ⟨e, heq⟩ | ⟨h, hrefers, heq⟩
  · rw [heq]
    exact herror e
  · rw [heq]
    exact hok h hrefers

theorem ensures_update {k : Kind} {row : Row k} {post : Except Error (Row k) → Db → Prop}
    (herror : ∀ e, post (.error e) db)
    (hmissing : ∀ now, db.has k row.id = false → post (.ok { row with updatedAt := now }) db)
    (hok : ∀ now h, db.has k row.id = true → db.refers k { row with updatedAt := now } = true →
      post (.ok { row with updatedAt := now }) (db.withTable k (updated (db.table k) { row with updatedAt := now } h))) :
    Ensures dbStep may post (Storage.update k row) db := by
  intro now _ r _
  change Ensures dbStep may post ((orFail (db.update k { row with updatedAt := now } r).1).bind _)
    (db.update k { row with updatedAt := now } r).2
  rcases update_cases db k { row with updatedAt := now } r with ⟨e, heq⟩ | ⟨hhas, heq⟩ | ⟨h, hhas, hrefers, heq⟩
  · rw [heq]
    exact herror e
  · rw [heq]
    exact hmissing now hhas
  · rw [heq]
    exact hok now h hhas hrefers

theorem ensures_deleteWhere {k : Kind} {filter : Row k → Bool} {post : Except Error Unit → Db → Prop}
    (herror : ∀ e, post (.error e) db) (hok : post (.ok ()) (db.delete k filter)) :
    Ensures dbStep may post (Storage.deleteWhere k filter) db := by
  intro r _
  rcases r with e | ⟨⟩
  · exact herror e
  · exact hok

theorem ensures_acquire {α : Type} {lock : Lock} {f : Unit → Query α} {post : Except Error α → Db → Prop}
    (h : Ensures dbStep may post (f ()) db) : Ensures dbStep may post ((acquire lock).bind f) db := fun _ _ => h

theorem ensures_release {α : Type} {lock : Lock} {f : Unit → Query α} {post : Except Error α → Db → Prop}
    (h : Ensures dbStep may post (f ()) db) : Ensures dbStep may post ((release lock).bind f) db := fun _ _ => h

theorem ensures_newEntity {β : Type} {base : β} {post : Except Error (Entity β) → Db → Prop}
    (hok : ∀ id now, may db .newV4 id → post (.ok ⟨id, now, now, base⟩) db) :
    Ensures dbStep may post (newEntity base) db := fun now _ id hid => hok id now hid

theorem ensures_orFail {α : Type} {r : Except Error α} {post : Except Error α → Db → Prop} (h : post r db) :
    Ensures dbStep may post (orFail r) db := by
  cases r <;> exact h

theorem ensures_crudCreate {k : Kind} {entity : Row k} {post : Except Error (Row k) → Db → Prop}
    (herror : ∀ e, post (.error e) db)
    (hok : ∀ row : Row k, row.base = entity.base → (entity.id ≠ Uuid.nil → row = entity) →
      (entity.id = Uuid.nil → may db .newV4 row.id) →
      ∀ h : ∀ r ∈ (db.table k).rows, Apart k r (columns k row), db.refers k row = true →
      post (.ok row) (db.withTable k ((db.table k).insert (columns k row) h))) :
    Ensures dbStep may post (Crud.create k entity) db := by
  unfold Crud.create
  by_cases hnil : entity.id = Uuid.nil
  · simp only [hnil, ↓reduceIte, bind_eq]
    apply Ensures.bind
    intro now _ id hid
    exact ensures_create herror (hok _ rfl (fun h => absurd hnil h) (fun _ => hid))
  · simp only [hnil, ↓reduceIte, bind_eq, ret_bind]
    exact ensures_create herror (hok entity rfl (fun _ => rfl) (fun h => absurd h hnil))

theorem ensures_crudUpdate {k : Kind} {entity : Row k} {post : Except Error (Row k) → Db → Prop}
    (herror : ∀ e, post (.error e) db)
    (hok : ∀ now h, db.has k entity.id = true → db.refers k { entity with updatedAt := now } = true →
      post (.ok { entity with updatedAt := now })
        (db.withTable k (updated (db.table k) { entity with updatedAt := now } h))) :
    Ensures dbStep may post (Crud.update k entity) db := by
  apply Ensures.bind
  apply ensures_getById
  · exact herror
  · cases hfind : (db.table k).rows.find? (fun r => r.id = entity.id) with
    | none => exact herror _
    | some r =>
      have hhas : db.has k entity.id = true := (has_iff db k entity.id).mpr ⟨r, find_id_eq_some_iff.mp hfind⟩
      exact ensures_update herror (fun now hnot => absurd hhas (by simp [hnot])) hok

theorem ensures_crudDelete {k : Kind} {id : Uuid} {post : Except Error Unit → Db → Prop}
    (herror : ∀ e, post (.error e) db) (hok : post (.ok ()) (db.delete k (fun r => r.id = id))) :
    Ensures dbStep may post (Crud.delete k id) db := by
  apply Ensures.bind
  apply ensures_getById
  · exact herror
  · cases (db.table k).rows.find? (fun r => r.id = id) with
    | none => exact herror _
    | some r => exact ensures_deleteWhere herror hok

theorem ensures_deleteMany {k : Kind} {ids : List Uuid} {post : Except Error Unit → Db → Prop}
    (herror : ∀ e, post (.error e) db) (hnone : ids = [] → post (.ok ()) db)
    (hok : post (.ok ()) (db.delete k (fun r => ids.contains r.id))) :
    Ensures dbStep may post (Crud.deleteMany k ids) db := by
  unfold Crud.deleteMany
  cases ids with
  | nil => exact hnone rfl
  | cons id ids =>
    apply Ensures.bind
    refine Ensures.forEach (fun _ t => t = db) _ (fun done x rest _ s hs => ?_) rfl ?_
    · subst hs
      apply Ensures.bind
      exact ensures_getById herror rfl
    · rintro t rfl
      exact ensures_deleteWhere herror hok

end statements

end VantageNet.Inventory
