import StockAiPlatform.Db.UserModels
import StockAiPlatform.Transaction.Contract
import StockAiPlatform.Transaction.Rows

/-! # Watchlists

The repository of the watchlists, and what the keys of the table refuse. None
of its functions commits. Times of creation and update are left out.
-/

namespace StockAiPlatform
set_option autoImplicit false

open Transaction Python

def UserDatabase.userKnown (db : UserDatabase) (userId : Nat) : Bool :=
  (db.users.find? userId).isSome

namespace WatchlistRepository

def isDefaultOf (userId : Nat) (row : Watchlist) : Bool := row.userId == userId && row.isDefault

def demoted (row : Watchlist) : Watchlist := { row with isDefault := false }

def promoted (row : Watchlist) : Watchlist := { row with isDefault := true }

def renamed (newName : String) (row : Watchlist) : Watchlist := { row with name := newName }

theorem id_demoted (row : Watchlist) : (demoted row).id = row.id := rfl
theorem id_promoted (row : Watchlist) : (promoted row).id = row.id := rfl
theorem id_renamed (newName : String) (row : Watchlist) : (renamed newName row).id = row.id := rfl

/-- `_clear_default_for_user`. -/
def clearDefault (userId : Nat) (db : UserDatabase) : UserDatabase :=
  { db with watchlists := db.watchlists.updateWhere (isDefaultOf userId) demoted id_demoted }

def insertRow (row : Watchlist) (db : UserDatabase) : UserDatabase :=
  { db with watchlists := db.watchlists.insert row }

def hasId (watchlistId : Nat) (row : Watchlist) : Bool := row.id == watchlistId

def storeName (watchlistId : Nat) (newName : String) (db : UserDatabase) : UserDatabase where
  __ := db
  watchlists := db.watchlists.updateWhere (hasId watchlistId) (renamed newName) (id_renamed newName)

def storeDefault (watchlistId : Nat) (db : UserDatabase) : UserDatabase where
  __ := db
  watchlists := db.watchlists.updateWhere (hasId watchlistId) promoted id_promoted

def withoutDefault (row : UserPreference) : UserPreference := { row with defaultWatchlistId := none }

theorem id_withoutDefault (row : UserPreference) : (withoutDefault row).id = row.id := rfl

/-- The items go with their watchlist, and preferences that point at it are set to null. -/
def deleteRow (watchlistId : Nat) (db : UserDatabase) : UserDatabase where
  __ := db
  watchlists := db.watchlists.deleteWhere (hasId watchlistId)
  watchlistItems := db.watchlistItems.deleteWhere fun row => row.watchlistId == watchlistId
  userPreferences := db.userPreferences.updateWhere
    (fun row => row.defaultWatchlistId == some watchlistId) withoutDefault id_withoutDefault

/-- Whether another row than `self` has the name. -/
def nameTaken (userId : Nat) (name : String) (self : Option Nat) (db : UserDatabase) : Bool :=
  db.watchlists.rows.any fun row =>
    row.userId == userId && row.name == name && some row.id != self

def add (userId : Nat) (name : String) (isDefault : Bool) : UserApp Watchlist := do
  if ← Program.query (.constraint "watchlists") fun db =>
      db.userKnown userId && !nameTaken userId name none db then
    let id ← Program.allocated fun db => db.watchlists.nextKey
    Program.modify (insertRow ⟨id, userId, name, isDefault⟩)
    pure ⟨id, userId, name, isDefault⟩
  else .raise .integrity

def create (userId : Nat) (name : String) (isDefault : Bool) : UserApp Watchlist := do
  if isDefault then Program.modify (clearDefault userId)
  add userId name isDefault

def rename (watchlist : Watchlist) (newName : String) : UserApp Watchlist := do
  if ← Program.query (.constraint "uq_watchlists_user_name")
      (nameTaken watchlist.userId newName (some watchlist.id)) then .raise .integrity
  else
    Program.modify (storeName watchlist.id newName)
    pure (renamed newName watchlist)

def setDefault (watchlist : Watchlist) : UserApp Watchlist :=
  if watchlist.isDefault then pure watchlist
  else do
    Program.modify (clearDefault watchlist.userId)
    Program.modify (storeDefault watchlist.id)
    pure (promoted watchlist)

def delete (watchlist : Watchlist) : UserApp Unit := Program.modify (deleteRow watchlist.id)

def owned? (userId watchlistId : Nat) (db : UserDatabase) : Option Watchlist :=
  db.watchlists.rows.find? fun row => row.id == watchlistId && row.userId == userId

def getByUserAndId (userId watchlistId : Nat) : UserApp (Option Watchlist) :=
  Program.query (.watchlistByUserAndId userId watchlistId) (owned? userId watchlistId)

theorem owned?_eq_some {userId watchlistId : Nat} {db : UserDatabase} {watchlist : Watchlist}
    (h : owned? userId watchlistId db = some watchlist) :
    watchlist ∈ db.watchlists.rows ∧ watchlist.id = watchlistId ∧ watchlist.userId = userId := by
  have hFields := List.find?_some h
  rw [Bool.and_eq_true, beq_iff_eq, beq_iff_eq] at hFields
  exact ⟨List.mem_of_find?_eq_some h, hFields⟩

theorem nameTaken_eq_false {userId : Nat} {name : String} {self : Option Nat} {db : UserDatabase}
    (h : nameTaken userId name self db = false) {row : Watchlist} (hMem : row ∈ db.watchlists.rows)
    (hUser : row.userId = userId) (hName : row.name = name) : some row.id = self := by
  have hRow := List.any_eq_false.mp h row hMem
  by_contra hOther
  simp [hUser, hName, hOther] at hRow

section Rules

variable {kept : UserDatabase → Prop} {post : Watchlist → UserDatabase → Prop}
  {raised : UserError → UserDatabase → Prop} {view : UserDatabase}

theorem wp_add {userId : Nat} {name : String} {isDefault : Bool}
    (hNew : nameTaken userId name none view = false →
      post ⟨view.watchlists.nextKey, userId, name, isDefault⟩
        (insertRow ⟨view.watchlists.nextKey, userId, name, isDefault⟩ view))
    (hRefused : raised .integrity view) : (add userId name isDefault).wp kept post raised view := by
  refine Program.wp_ite (fun hAccepted => ?_) fun _ => hRefused
  rw [Bool.and_eq_true, Bool.not_eq_true'] at hAccepted
  exact hNew hAccepted.2

theorem wp_rename {watchlist : Watchlist} {newName : String}
    (hFree : nameTaken watchlist.userId newName (some watchlist.id) view = false →
      post (renamed newName watchlist) (storeName watchlist.id newName view))
    (hRefused : raised .integrity view) : (rename watchlist newName).wp kept post raised view :=
  Program.wp_ite (fun _ => hRefused) fun hFree' => hFree (Bool.eq_false_iff.mpr hFree')

theorem wp_setDefault {watchlist : Watchlist}
    (hAlready : watchlist.isDefault = true → post watchlist view)
    (hSet : post (promoted watchlist)
      (storeDefault watchlist.id (clearDefault watchlist.userId view))) :
    (setDefault watchlist).wp kept post raised view :=
  Program.wp_ite hAlready fun _ => hSet

end Rules

end WatchlistRepository

end StockAiPlatform
