import StockAiPlatform.Data.UserPreferenceRepository
import StockAiPlatform.Data.WatchlistItemRepository

/-! # What the writes of the watchlist tables keep

One default, unique names and symbols, and default watchlists of the user's
own; and which rows a write on one user's watchlist leaves alone.
-/

namespace StockAiPlatform
set_option autoImplicit false

open Transaction Python

namespace UserDatabase

/-- The user owns the watchlist with the id. -/
def Holds (db : UserDatabase) (userId watchlistId : Nat) : Prop :=
  ∃ row ∈ db.watchlists.rows, row.id = watchlistId ∧ row.userId = userId

/-- Equal ids are equal rows: an id is a primary key. -/
structure Consistent (db : UserDatabase) : Prop where
  singleDefault : ∀ a ∈ db.watchlists.rows, ∀ b ∈ db.watchlists.rows, a.userId = b.userId →
    a.isDefault = true → b.isDefault = true → a.id = b.id
  uniqueName : ∀ a ∈ db.watchlists.rows, ∀ b ∈ db.watchlists.rows, a.userId = b.userId →
    a.name = b.name → a.id = b.id
  uniqueSymbol : ∀ i ∈ db.watchlistItems.rows, ∀ j ∈ db.watchlistItems.rows,
    i.watchlistId = j.watchlistId → i.symbol = j.symbol → i.id = j.id
  ownDefault : ∀ preference ∈ db.userPreferences.rows, ∀ watchlistId,
    preference.defaultWatchlistId = some watchlistId → db.Holds preference.userId watchlistId

def watchlistsOf (db : UserDatabase) (userId : Nat) : List Watchlist :=
  db.watchlists.rows.filter fun row => row.userId == userId

def itemsOf (db : UserDatabase) (userId : Nat) : List WatchlistItem :=
  db.watchlistItems.rows.filter fun item =>
    (db.watchlistsOf userId).any fun row => row.id == item.watchlistId

def preferencesOf (db : UserDatabase) (userId : Nat) : List UserPreference :=
  db.userPreferences.rows.filter fun row => row.userId == userId

/-- The rows of the user are the same in both states. -/
structure SameFor (userId : Nat) (before after : UserDatabase) : Prop where
  watchlists : after.watchlistsOf userId = before.watchlistsOf userId
  items : after.itemsOf userId = before.itemsOf userId
  preferences : after.preferencesOf userId = before.preferencesOf userId

theorem SameFor.refl (userId : Nat) (db : UserDatabase) : SameFor userId db db := ⟨rfl, rfl, rfl⟩

theorem SameFor.trans {userId : Nat} {first second third : UserDatabase}
    (h : SameFor userId first second) (h' : SameFor userId second third) :
    SameFor userId first third :=
  ⟨h'.watchlists.trans h.watchlists, h'.items.trans h.items, h'.preferences.trans h.preferences⟩

/-- Whose items they are is decided by the watchlists. -/
theorem sameFor_of_watchlists {userId : Nat} {before after : UserDatabase}
    (h : after.watchlistsOf userId = before.watchlistsOf userId)
    (hItems : after.watchlistItems = before.watchlistItems)
    (hPreferences : after.userPreferences = before.userPreferences) :
    SameFor userId before after := by
  refine ⟨h, ?_, ?_⟩
  · rw [itemsOf, itemsOf, h, hItems]
  · rw [preferencesOf, preferencesOf, hPreferences]

theorem sameFor_of_items {userId : Nat} {before after : UserDatabase}
    (hWatchlists : after.watchlists = before.watchlists)
    (hPreferences : after.userPreferences = before.userPreferences)
    (h : after.watchlistItems.rows.filter (fun item =>
        (before.watchlistsOf userId).any fun row => row.id == item.watchlistId) =
      before.itemsOf userId) : SameFor userId before after := by
  have hSame : after.watchlistsOf userId = before.watchlistsOf userId := by
    rw [watchlistsOf, hWatchlists, watchlistsOf]
  refine ⟨hSame, ?_, ?_⟩
  · rw [itemsOf, hSame, h]
  · rw [preferencesOf, preferencesOf, hPreferences]

theorem sameFor_of_preferences {userId : Nat} {before after : UserDatabase}
    (hWatchlists : after.watchlists = before.watchlists)
    (hItems : after.watchlistItems = before.watchlistItems)
    (h : after.preferencesOf userId = before.preferencesOf userId) :
    SameFor userId before after := by
  have hSame : after.watchlistsOf userId = before.watchlistsOf userId := by
    rw [watchlistsOf, hWatchlists, watchlistsOf]
  refine ⟨hSame, ?_, h⟩
  rw [itemsOf, itemsOf, hSame, hItems]

end UserDatabase

namespace WatchlistRepository

open UserDatabase

variable {db : UserDatabase} {userId watchlistId : Nat}

/-- No row with the id belongs to anyone else. -/
def OwnedBy (userId watchlistId : Nat) (db : UserDatabase) : Prop :=
  ∀ row ∈ db.watchlists.rows, row.id = watchlistId → row.userId = userId

theorem ownedBy_of_mem {watchlist : Watchlist} (hMem : watchlist ∈ db.watchlists.rows)
    (hUser : watchlist.userId = userId) : OwnedBy userId watchlist.id db := by
  intro row hRow hId
  have hSame : row = watchlist := List.inj_on_of_nodup_map db.watchlists.nodup hRow hMem hId
  rw [hSame, hUser]

/-- Where every row keeps the id, owner and name it had, names stay unique. -/
theorem uniqueName_of_kept {after : UserDatabase} (h : db.Consistent)
    (hKept : ∀ row ∈ after.watchlists.rows, ∃ before ∈ db.watchlists.rows,
      before.id = row.id ∧ before.userId = row.userId ∧ before.name = row.name) :
    ∀ a ∈ after.watchlists.rows, ∀ b ∈ after.watchlists.rows, a.userId = b.userId →
      a.name = b.name → a.id = b.id := by
  intro a ha b hb hUser hName
  obtain ⟨beforeA, hMemA, hIdA, hUserA, hNameA⟩ := hKept a ha
  obtain ⟨beforeB, hMemB, hIdB, hUserB, hNameB⟩ := hKept b hb
  rw [← hIdA, ← hIdB]
  exact h.uniqueName beforeA hMemA beforeB hMemB (by rw [hUserA, hUserB, hUser])
    (by rw [hNameA, hNameB, hName])

section ClearDefault

theorem mem_clearDefault {row : Watchlist} (h : row ∈ (clearDefault userId db).watchlists.rows) :
    ∃ before ∈ db.watchlists.rows, before.id = row.id ∧ before.userId = row.userId ∧
      before.name = row.name ∧
      (row.isDefault = true → before.isDefault = true ∧ row.userId ≠ userId) := by
  rcases mem_updateWhere.mp h with ⟨before, hMem, -, rfl⟩ | ⟨hMem, hApart⟩
  · refine ⟨before, hMem, rfl, rfl, rfl, ?_⟩
    intro hDefault
    cases hDefault
  · refine ⟨row, hMem, rfl, rfl, rfl, fun hDefault => ⟨hDefault, ?_⟩⟩
    intro hUser
    simp [isDefaultOf, hUser, hDefault] at hApart

theorem holds_updateWhere {here : Watchlist → Bool} {change : Watchlist → Watchlist}
    (hId : ∀ row, (change row).id = row.id) (hUser : ∀ row, (change row).userId = row.userId)
    {after : UserDatabase} (hAfter : after.watchlists = db.watchlists.updateWhere here change hId)
    (h : db.Holds userId watchlistId) : after.Holds userId watchlistId := by
  obtain ⟨row, hMem, rfl, rfl⟩ := h
  refine ⟨if here row then change row else row, ?_, ?_, ?_⟩
  · rw [hAfter]
    exact List.mem_map_of_mem hMem
  · split
    · exact hId row
    · rfl
  · split
    · exact hUser row
    · rfl

theorem consistent_clearDefault (userId : Nat) (h : db.Consistent) :
    (clearDefault userId db).Consistent where
  singleDefault := by
    intro a ha b hb hUser hDefaultA hDefaultB
    obtain ⟨beforeA, hMemA, hIdA, hUserA, -, hWasA⟩ := mem_clearDefault ha
    obtain ⟨beforeB, hMemB, hIdB, hUserB, -, hWasB⟩ := mem_clearDefault hb
    rw [← hIdA, ← hIdB]
    exact h.singleDefault beforeA hMemA beforeB hMemB (by rw [hUserA, hUserB, hUser])
      (hWasA hDefaultA).1 (hWasB hDefaultB).1
  uniqueName := by
    refine uniqueName_of_kept h fun row hRow => ?_
    obtain ⟨before, hMem, hId, hUser, hName, -⟩ := mem_clearDefault hRow
    exact ⟨before, hMem, hId, hUser, hName⟩
  uniqueSymbol := h.uniqueSymbol
  ownDefault := fun preference hMem watchlistId hDefault =>
    holds_updateWhere id_demoted (fun _ => rfl) rfl
      (h.ownDefault preference hMem watchlistId hDefault)

theorem sameFor_clearDefault {other : Nat} (h : other ≠ userId) (db : UserDatabase) :
    SameFor other db (clearDefault userId db) := by
  refine sameFor_of_watchlists ?_ rfl rfl
  apply filter_updateWhere_of_disjoint
  · exact fun _ _ => rfl
  · intro row hOther
    simp [isDefaultOf, beq_iff_eq.mp hOther, h]

end ClearDefault

section Insert

variable {name : String} {isDefault : Bool}

/-- The row an `add` inserts. -/
def newRow (userId : Nat) (name : String) (isDefault : Bool) (db : UserDatabase) : Watchlist :=
  ⟨db.watchlists.nextKey, userId, name, isDefault⟩

theorem rows_insertRow (userId : Nat) (name : String) (isDefault : Bool) (db : UserDatabase) :
    (insertRow (newRow userId name isDefault db) db).watchlists.rows =
      db.watchlists.rows ++ [newRow userId name isDefault db] :=
  Table.rows_insert_of_key_eq rfl

theorem mem_insertRow {row : Watchlist}
    (h : row ∈ (insertRow (newRow userId name isDefault db) db).watchlists.rows) :
    row ∈ db.watchlists.rows ∨ row = newRow userId name isDefault db := by
  rw [rows_insertRow] at h
  exact (List.mem_append.mp h).imp_right List.mem_singleton.mp

theorem consistent_insertRow (h : db.Consistent) (hFree : nameTaken userId name none db = false)
    (hNone : isDefault = true → ∀ row ∈ db.watchlists.rows, row.userId = userId →
      row.isDefault = false) :
    (insertRow (newRow userId name isDefault db) db).Consistent where
  singleDefault := by
    have hNew : ∀ row ∈ db.watchlists.rows, row.userId = userId → row.isDefault = true →
        isDefault = true → False := by
      intro row hRow hUser hDefault hNewDefault
      rw [hNone hNewDefault row hRow hUser] at hDefault
      cases hDefault
    intro a ha b hb hUser hDefaultA hDefaultB
    rcases mem_insertRow ha with ha | rfl <;> rcases mem_insertRow hb with hb | rfl
    · exact h.singleDefault a ha b hb hUser hDefaultA hDefaultB
    · exact (hNew a ha hUser hDefaultA hDefaultB).elim
    · exact (hNew b hb hUser.symm hDefaultB hDefaultA).elim
    · rfl
  uniqueName := by
    intro a ha b hb hUser hName
    rcases mem_insertRow ha with ha | rfl <;> rcases mem_insertRow hb with hb | rfl
    · exact h.uniqueName a ha b hb hUser hName
    · cases nameTaken_eq_false hFree ha hUser hName
    · cases nameTaken_eq_false hFree hb hUser.symm hName.symm
    · rfl
  uniqueSymbol := h.uniqueSymbol
  ownDefault := by
    intro preference hMem watchlistId hDefault
    obtain ⟨row, hRow, hId, hUser⟩ := h.ownDefault preference hMem watchlistId hDefault
    refine ⟨row, ?_, hId, hUser⟩
    rw [rows_insertRow]
    exact List.mem_append_left _ hRow

theorem sameFor_insertRow {other : Nat} (h : other ≠ userId) (name : String) (isDefault : Bool)
    (db : UserDatabase) : SameFor other db (insertRow (newRow userId name isDefault db) db) := by
  refine sameFor_of_watchlists ?_ rfl rfl
  have hOther : (userId == other) = false := beq_eq_false_iff_ne.mpr h.symm
  rw [watchlistsOf, rows_insertRow, List.filter_append, List.filter_cons]
  simp [newRow, hOther, watchlistsOf]

end Insert

section Store

variable {newName : String}

theorem mem_storeName {row : Watchlist}
    (h : row ∈ (storeName watchlistId newName db).watchlists.rows) :
    ∃ before ∈ db.watchlists.rows, before.id = row.id ∧ before.userId = row.userId ∧
      before.isDefault = row.isDefault ∧
      (row.id = watchlistId ∧ row.name = newName ∨ row.id ≠ watchlistId ∧ before.name = row.name) := by
  rcases mem_updateWhere.mp h with ⟨before, hMem, hHere, rfl⟩ | ⟨hMem, hApart⟩
  · exact ⟨before, hMem, rfl, rfl, rfl, .inl ⟨beq_iff_eq.mp hHere, rfl⟩⟩
  · exact ⟨row, hMem, rfl, rfl, rfl, .inr ⟨beq_eq_false_iff_ne.mp hApart, rfl⟩⟩

theorem consistent_storeName (h : db.Consistent) (hOwned : OwnedBy userId watchlistId db)
    (hFree : nameTaken userId newName (some watchlistId) db = false) :
    (storeName watchlistId newName db).Consistent where
  singleDefault := by
    intro a ha b hb hUser hDefaultA hDefaultB
    obtain ⟨beforeA, hMemA, hIdA, hUserA, hWasA, -⟩ := mem_storeName ha
    obtain ⟨beforeB, hMemB, hIdB, hUserB, hWasB, -⟩ := mem_storeName hb
    rw [← hIdA, ← hIdB]
    exact h.singleDefault beforeA hMemA beforeB hMemB (by rw [hUserA, hUserB, hUser])
      (by rw [hWasA, hDefaultA]) (by rw [hWasB, hDefaultB])
  uniqueName := by
    -- A row of the user that has the new name already is the renamed row itself.
    have hSelf : ∀ row ∈ db.watchlists.rows, row.userId = userId → row.name = newName →
        row.id = watchlistId := by
      intro row hRow hUser hName
      exact Option.some.inj (nameTaken_eq_false hFree hRow hUser hName)
    intro a ha b hb hUser hName
    obtain ⟨beforeA, hMemA, hIdA, hUserA, -, hNameA⟩ := mem_storeName ha
    obtain ⟨beforeB, hMemB, hIdB, hUserB, -, hNameB⟩ := mem_storeName hb
    rcases hNameA with ⟨hA, hNewA⟩ | ⟨-, hOldA⟩ <;> rcases hNameB with ⟨hB, hNewB⟩ | ⟨-, hOldB⟩
    · rw [hA, hB]
    · have hOwner := hOwned beforeA hMemA (hIdA.trans hA)
      rw [hA, ← hIdB, hSelf beforeB hMemB (by rw [hUserB, ← hUser, ← hUserA, hOwner])
        (by rw [hOldB, ← hName, hNewA])]
    · have hOwner := hOwned beforeB hMemB (hIdB.trans hB)
      rw [hB, ← hIdA, hSelf beforeA hMemA (by rw [hUserA, hUser, ← hUserB, hOwner])
        (by rw [hOldA, hName, hNewB])]
    · rw [← hIdA, ← hIdB]
      exact h.uniqueName beforeA hMemA beforeB hMemB (by rw [hUserA, hUserB, hUser])
        (by rw [hOldA, hOldB, hName])
  uniqueSymbol := h.uniqueSymbol
  ownDefault := fun preference hMem _ hDefault =>
    holds_updateWhere (id_renamed newName) (fun _ => rfl) rfl (h.ownDefault preference hMem _ hDefault)

theorem mem_storeDefault {row : Watchlist}
    (h : row ∈ (storeDefault watchlistId db).watchlists.rows) :
    ∃ before ∈ db.watchlists.rows, before.id = row.id ∧ before.userId = row.userId ∧
      before.name = row.name ∧
      (row.isDefault = true → row.id = watchlistId ∨ before.isDefault = true) := by
  rcases mem_updateWhere.mp h with ⟨before, hMem, hHere, rfl⟩ | ⟨hMem, -⟩
  · exact ⟨before, hMem, rfl, rfl, rfl, fun _ => .inl (beq_iff_eq.mp hHere)⟩
  · exact ⟨row, hMem, rfl, rfl, rfl, fun hDefault => .inr hDefault⟩

theorem consistent_storeDefault (h : db.Consistent) (hOwned : OwnedBy userId watchlistId db)
    (hNone : ∀ row ∈ db.watchlists.rows, row.userId = userId → row.isDefault = false) :
    (storeDefault watchlistId db).Consistent where
  singleDefault := by
    -- Beside the promoted row the user has no default.
    have hSelf : ∀ row ∈ db.watchlists.rows, row.userId = userId → row.isDefault = true → False := by
      intro row hRow hUser hDefault
      rw [hNone row hRow hUser] at hDefault
      cases hDefault
    intro a ha b hb hUser hDefaultA hDefaultB
    obtain ⟨beforeA, hMemA, hIdA, hUserA, -, hWasA⟩ := mem_storeDefault ha
    obtain ⟨beforeB, hMemB, hIdB, hUserB, -, hWasB⟩ := mem_storeDefault hb
    rcases hWasA hDefaultA with hA | hOldA <;> rcases hWasB hDefaultB with hB | hOldB
    · rw [hA, hB]
    · have hOwner := hOwned beforeA hMemA (hIdA.trans hA)
      exact (hSelf beforeB hMemB (by rw [hUserB, ← hUser, ← hUserA, hOwner]) hOldB).elim
    · have hOwner := hOwned beforeB hMemB (hIdB.trans hB)
      exact (hSelf beforeA hMemA (by rw [hUserA, hUser, ← hUserB, hOwner]) hOldA).elim
    · rw [← hIdA, ← hIdB]
      exact h.singleDefault beforeA hMemA beforeB hMemB (by rw [hUserA, hUserB, hUser]) hOldA hOldB
  uniqueName := by
    refine uniqueName_of_kept h fun row hRow => ?_
    obtain ⟨before, hMem, hId, hUser, hName, -⟩ := mem_storeDefault hRow
    exact ⟨before, hMem, hId, hUser, hName⟩
  uniqueSymbol := h.uniqueSymbol
  ownDefault := fun preference hMem _ hDefault =>
    holds_updateWhere id_promoted (fun _ => rfl) rfl (h.ownDefault preference hMem _ hDefault)

/-- An UPDATE of the one row leaves the rows of everyone but its owner alone. -/
theorem watchlistsOf_updateWhere {other : Nat} (hOther : other ≠ userId)
    (hOwned : OwnedBy userId watchlistId db) {change : Watchlist → Watchlist}
    (hUser : ∀ row, (change row).userId = row.userId) :
    (updateWhere (hasId watchlistId) change db.watchlists.rows).filter
      (fun row => row.userId == other) = db.watchlistsOf other := by
  apply filter_updateWhere_of_apart
  · intro row _
    rw [hUser]
  · intro row hRow hIsOther
    refine beq_eq_false_iff_ne.mpr fun hId => hOther ?_
    rw [← beq_iff_eq.mp hIsOther, hOwned row hRow hId]

theorem sameFor_storeName {other : Nat} (hOther : other ≠ userId)
    (hOwned : OwnedBy userId watchlistId db) (newName : String) :
    SameFor other db (storeName watchlistId newName db) :=
  sameFor_of_watchlists (watchlistsOf_updateWhere hOther hOwned fun _ => rfl) rfl rfl

theorem sameFor_storeDefault {other : Nat} (hOther : other ≠ userId)
    (hOwned : OwnedBy userId watchlistId db) : SameFor other db (storeDefault watchlistId db) :=
  sameFor_of_watchlists (watchlistsOf_updateWhere hOther hOwned fun _ => rfl) rfl rfl

end Store

section Delete

theorem consistent_deleteRow (watchlistId : Nat) (h : db.Consistent) :
    (deleteRow watchlistId db).Consistent where
  singleDefault := fun a ha b hb =>
    h.singleDefault a (Table.mem_rows_deleteWhere.mp ha).1 b (Table.mem_rows_deleteWhere.mp hb).1
  uniqueName := fun a ha b hb =>
    h.uniqueName a (Table.mem_rows_deleteWhere.mp ha).1 b (Table.mem_rows_deleteWhere.mp hb).1
  uniqueSymbol := fun i hi j hj =>
    h.uniqueSymbol i (Table.mem_rows_deleteWhere.mp hi).1 j (Table.mem_rows_deleteWhere.mp hj).1
  ownDefault := by
    intro preference hMem other hDefault
    rcases mem_updateWhere.mp hMem with ⟨before, -, -, rfl⟩ | ⟨hMem, hApart⟩
    · cases hDefault
    · obtain ⟨row, hRow, hId, hUser⟩ := h.ownDefault preference hMem other hDefault
      refine ⟨row, Table.mem_rows_deleteWhere.mpr ⟨hRow, beq_eq_false_iff_ne.mpr ?_⟩, hId, hUser⟩
      intro hSame
      simp [hDefault, ← hId, hSame] at hApart

theorem sameFor_deleteRow {other : Nat} (h : db.Consistent) (hOther : other ≠ userId)
    (hOwned : OwnedBy userId watchlistId db) : SameFor other db (deleteRow watchlistId db) := by
  have hRows : (deleteRow watchlistId db).watchlistsOf other = db.watchlistsOf other := by
    apply Table.filter_deleteWhere
    intro row hRow hIsOther
    refine beq_eq_false_iff_ne.mpr fun hId => hOther ?_
    rw [← beq_iff_eq.mp hIsOther, hOwned row hRow hId]
  refine ⟨hRows, ?_, ?_⟩
  · rw [itemsOf, hRows]
    apply Table.filter_deleteWhere
    -- An item of someone else lies in a watchlist of theirs, which is not the one deleted.
    intro item _ hIsOther
    obtain ⟨row, hRow, hId⟩ := List.any_eq_true.mp hIsOther
    obtain ⟨hMem, hUser⟩ := List.mem_filter.mp hRow
    refine beq_eq_false_iff_ne.mpr fun hSame => hOther ?_
    rw [← beq_iff_eq.mp hUser, hOwned row hMem ((beq_iff_eq.mp hId).trans hSame)]
  · apply filter_updateWhere_of_apart
    · exact fun _ _ => rfl
    · intro preference hMem hIsOther
      refine beq_eq_false_iff_ne.mpr fun hDefault => hOther ?_
      obtain ⟨row, hRow, hId, hUser⟩ := h.ownDefault preference hMem watchlistId hDefault
      rw [← beq_iff_eq.mp hIsOther, ← hUser, hOwned row hRow hId]

end Delete

end WatchlistRepository

namespace WatchlistItemRepository

open UserDatabase WatchlistRepository

variable {db : UserDatabase} {userId watchlistId : Nat}

/-- Items of a watchlist that the user owns are none of anyone else's. -/
theorem not_itemOf_other {other : Nat} (hOther : other ≠ userId)
    (hOwned : OwnedBy userId watchlistId db) {item : WatchlistItem}
    (hItem : item.watchlistId = watchlistId) :
    ((db.watchlistsOf other).any fun row => row.id == item.watchlistId) = false := by
  rw [List.any_eq_false]
  intro row hRow hId
  obtain ⟨hMem, hUser⟩ := List.mem_filter.mp hRow
  apply hOther
  rw [← beq_iff_eq.mp hUser, hOwned row hMem ((beq_iff_eq.mp hId).trans hItem)]

section Insert

variable {symbol : String} {memo : Option String}

def newRow (watchlistId : Nat) (symbol : String) (memo : Option String) (db : UserDatabase) :
    WatchlistItem :=
  ⟨db.watchlistItems.nextKey, watchlistId, symbol, memo⟩

theorem rows_insertRow (watchlistId : Nat) (symbol : String) (memo : Option String)
    (db : UserDatabase) :
    (insertRow (newRow watchlistId symbol memo db) db).watchlistItems.rows =
      db.watchlistItems.rows ++ [newRow watchlistId symbol memo db] :=
  Table.rows_insert_of_key_eq rfl

theorem mem_insertRow {row : WatchlistItem}
    (h : row ∈ (insertRow (newRow watchlistId symbol memo db) db).watchlistItems.rows) :
    row ∈ db.watchlistItems.rows ∨ row = newRow watchlistId symbol memo db := by
  rw [rows_insertRow] at h
  exact (List.mem_append.mp h).imp_right List.mem_singleton.mp

theorem consistent_insertRow (h : db.Consistent) (hAccepted : accepts watchlistId symbol db = true) :
    (insertRow (newRow watchlistId symbol memo db) db).Consistent where
  singleDefault := h.singleDefault
  uniqueName := h.uniqueName
  uniqueSymbol := by
    have hNew : ∀ item ∈ db.watchlistItems.rows, item.watchlistId = watchlistId →
        item.symbol = symbol → False := by
      intro item hMem hWatchlist hSymbol
      have hFree := Bool.not_eq_true' _ ▸ (Bool.and_eq_true_iff.mp hAccepted).2
      have hItem := List.any_eq_false.mp hFree item hMem
      simp [isItem, hWatchlist, hSymbol] at hItem
    intro i hi j hj hWatchlist hSymbol
    rcases mem_insertRow hi with hi | rfl <;> rcases mem_insertRow hj with hj | rfl
    · exact h.uniqueSymbol i hi j hj hWatchlist hSymbol
    · exact (hNew i hi hWatchlist hSymbol).elim
    · exact (hNew j hj hWatchlist.symm hSymbol.symm).elim
    · rfl
  ownDefault := h.ownDefault

theorem sameFor_insertRow {other : Nat} (hOther : other ≠ userId)
    (hOwned : OwnedBy userId watchlistId db) :
    SameFor other db (insertRow (newRow watchlistId symbol memo db) db) := by
  refine sameFor_of_items rfl rfl ?_
  rw [rows_insertRow, List.filter_append, List.filter_cons, not_itemOf_other hOther hOwned rfl]
  exact List.append_nil _

end Insert

theorem consistent_storeMemo (itemId : Nat) (memo : Option String) (h : db.Consistent) :
    (storeMemo itemId memo db).Consistent where
  singleDefault := h.singleDefault
  uniqueName := h.uniqueName
  uniqueSymbol := by
    intro i hi j hj hWatchlist hSymbol
    rcases mem_updateWhere.mp hi with ⟨beforeI, hMemI, -, rfl⟩ | ⟨hMemI, -⟩ <;>
      rcases mem_updateWhere.mp hj with ⟨beforeJ, hMemJ, -, rfl⟩ | ⟨hMemJ, -⟩
    · exact h.uniqueSymbol beforeI hMemI beforeJ hMemJ hWatchlist hSymbol
    · exact h.uniqueSymbol beforeI hMemI j hMemJ hWatchlist hSymbol
    · exact h.uniqueSymbol i hMemI beforeJ hMemJ hWatchlist hSymbol
    · exact h.uniqueSymbol i hMemI j hMemJ hWatchlist hSymbol
  ownDefault := h.ownDefault

theorem consistent_deleteRow (itemId : Nat) (h : db.Consistent) :
    (deleteRow itemId db).Consistent where
  singleDefault := h.singleDefault
  uniqueName := h.uniqueName
  uniqueSymbol := fun i hi j hj =>
    h.uniqueSymbol i (Table.mem_rows_deleteWhere.mp hi).1 j (Table.mem_rows_deleteWhere.mp hj).1
  ownDefault := h.ownDefault

section OwnItem

variable {other : Nat} {item : WatchlistItem} (hOther : other ≠ userId)
  (hOwned : OwnedBy userId watchlistId db) (hMem : item ∈ db.watchlistItems.rows)
  (hItem : item.watchlistId = watchlistId)

include hOther hOwned hMem hItem

/-- The row with the item's key is the item, and so it is nobody else's. -/
theorem key_ne_of_itemOf_other {row : WatchlistItem} (hRow : row ∈ db.watchlistItems.rows)
    (hIsOther : ((db.watchlistsOf other).any fun watchlist => watchlist.id == row.watchlistId) = true) :
    (row.id == item.id) = false := by
  refine beq_eq_false_iff_ne.mpr fun hId => ?_
  have hSame : row = item := List.inj_on_of_nodup_map db.watchlistItems.nodup hRow hMem hId
  rw [hSame, not_itemOf_other hOther hOwned hItem] at hIsOther
  cases hIsOther

theorem sameFor_storeMemo (memo : Option String) :
    SameFor other db (storeMemo item.id memo db) := by
  refine sameFor_of_items rfl rfl ?_
  apply filter_updateWhere_of_apart
  · exact fun _ _ => rfl
  · exact fun row hRow hIsOther => key_ne_of_itemOf_other hOther hOwned hMem hItem hRow hIsOther

theorem sameFor_deleteRow : SameFor other db (deleteRow item.id db) := by
  refine sameFor_of_items rfl rfl ?_
  apply Table.filter_deleteWhere
  exact fun row hRow hIsOther => key_ne_of_itemOf_other hOther hOwned hMem hItem hRow hIsOther

end OwnItem

end WatchlistItemRepository

namespace UserPreferenceRepository

open UserDatabase

variable {db : UserDatabase} {userId : Nat}

def newRow (userId : Nat) (db : UserDatabase) : UserPreference :=
  .mk db.userPreferences.nextKey userId none none none none none

theorem rows_insertRow (userId : Nat) (db : UserDatabase) :
    (insertRow (newRow userId db) db).userPreferences.rows =
      db.userPreferences.rows ++ [newRow userId db] :=
  Table.rows_insert_of_key_eq rfl

theorem consistent_insertRow (userId : Nat) (h : db.Consistent) :
    (insertRow (newRow userId db) db).Consistent where
  singleDefault := h.singleDefault
  uniqueName := h.uniqueName
  uniqueSymbol := h.uniqueSymbol
  ownDefault := by
    intro preference hMem watchlistId hDefault
    rw [rows_insertRow] at hMem
    rcases List.mem_append.mp hMem with hOld | hNew
    · exact h.ownDefault preference hOld watchlistId hDefault
    · rw [List.mem_singleton.mp hNew] at hDefault
      cases hDefault

theorem sameFor_insertRow {other : Nat} (hOther : other ≠ userId) (db : UserDatabase) :
    SameFor other db (insertRow (newRow userId db) db) := by
  refine sameFor_of_preferences rfl rfl ?_
  have hUser : (userId == other) = false := beq_eq_false_iff_ne.mpr hOther.symm
  rw [preferencesOf, rows_insertRow, List.filter_append, List.filter_cons]
  simp [newRow, hUser, preferencesOf]

variable {preference : UserPreference} {payload : PutUserPreferenceRequest}

/-- The row with the preference's key is the user's. -/
def OwnedBy (userId preferenceId : Nat) (db : UserDatabase) : Prop :=
  ∀ row ∈ db.userPreferences.rows, row.id = preferenceId → row.userId = userId

theorem ownedBy_of_mem {preference : UserPreference} (hMem : preference ∈ db.userPreferences.rows)
    (hUser : preference.userId = userId) : OwnedBy userId preference.id db := by
  intro row hRow hId
  have hSame : row = preference :=
    List.inj_on_of_nodup_map db.userPreferences.nodup hRow hMem hId
  rw [hSame, hUser]

theorem consistent_storeReplaced {preferenceId : Nat} (h : db.Consistent)
    (hOwned : OwnedBy userId preferenceId db)
    (hOwn : ∀ watchlistId, payload.defaultWatchlistId = some watchlistId → db.Holds userId watchlistId) :
    (storeReplaced preferenceId payload db).Consistent where
  singleDefault := h.singleDefault
  uniqueName := h.uniqueName
  uniqueSymbol := h.uniqueSymbol
  ownDefault := by
    intro row hMem watchlistId hDefault
    rcases mem_updateWhere.mp hMem with ⟨before, hBefore, hHere, rfl⟩ | ⟨hBefore, -⟩
    · have hUser : before.userId = userId := hOwned before hBefore (beq_iff_eq.mp hHere)
      show db.Holds before.userId watchlistId
      rw [hUser]
      exact hOwn watchlistId hDefault
    · exact h.ownDefault row hBefore watchlistId hDefault

theorem sameFor_storeReplaced {other preferenceId : Nat} (hOther : other ≠ userId)
    (hOwned : OwnedBy userId preferenceId db) :
    SameFor other db (storeReplaced preferenceId payload db) := by
  refine sameFor_of_preferences rfl rfl ?_
  apply filter_updateWhere_of_apart
  · exact fun _ _ => rfl
  · intro row hRow hIsOther
    refine beq_eq_false_iff_ne.mpr fun hId => hOther ?_
    rw [← beq_iff_eq.mp hIsOther, hOwned row hRow hId]

end UserPreferenceRepository

end StockAiPlatform
