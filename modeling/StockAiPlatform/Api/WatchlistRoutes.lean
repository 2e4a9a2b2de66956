import StockAiPlatform.Data.UserPreferenceRepository
import StockAiPlatform.Data.WatchlistItemRepository
import StockAiPlatform.Transaction.Run

/-! # The watchlist and preference routes

Every route works for the authenticated user on a session of its own. A route
that ends in an exception has committed nothing, or has rolled back before.
-/

namespace StockAiPlatform
set_option autoImplicit false

open Transaction Python

/-- Bodies past their validators, names stripped by them. -/
structure CreateWatchlistRequest where
  name : String
  isDefault : Bool := false
  name_ok : name ≠ "" ∧ name.length ≤ 64

structure CreateWatchlistItemRequest where
  symbol : String
  memo : Option String := none
  memo_short : ∀ text ∈ memo, text.length ≤ maxMemoLength

structure PatchWatchlistRequest where
  name : Option String := none
  isDefault : Option Bool := none
  name_ok : ∀ text ∈ name, text ≠ "" ∧ text.length ≤ 64

structure PatchWatchlistItemRequest where
  memo : Option String := none
  memo_short : ∀ text ∈ memo, text.length ≤ maxMemoLength

structure WatchlistSummary where
  id : Nat
  name : String
  isDefault : Bool
  itemCount : Nat
  deriving DecidableEq, Repr

namespace WatchlistRoutes

variable (upper : String → String)

def toSummary (watchlist : Watchlist) (itemCount : Nat) : WatchlistSummary where
  id := watchlist.id
  name := watchlist.name
  isDefault := watchlist.isDefault
  itemCount := itemCount

/-- A missing watchlist and another user's are told apart by nobody. -/
def loadOwnedWatchlist (userId watchlistId : Nat) : UserApp Watchlist := do
  let some watchlist ← WatchlistRepository.getByUserAndId userId watchlistId
    | .raise (.http 404 "watchlist not found")
  pure watchlist

/-- `try`, the commit, and the `except IntegrityError` that rolls back. -/
def committingUnique {α : Type} (detail : String) (p : UserApp α) : UserApp α := do
  match ← p.attempt with
  | .ok value =>
    Program.committed
    pure value
  | .error .integrity => .rollback (.raise (.http 409 detail))
  | .error error => .raise error

/-- The summary a changed watchlist is answered with. -/
def refreshed (userId watchlistId : Nat) : UserApp WatchlistSummary := do
  let some watchlist ← WatchlistRepository.getByUserAndId userId watchlistId
    | .raise .assertion
  let itemCount ← Program.query (.watchlistByUserAndId userId watchlistId)
    (WatchlistItemRepository.countItems watchlist.id)
  pure (toSummary watchlist itemCount)

def createWatchlist (payload : CreateWatchlistRequest) (userId : Nat) :
    UserApp WatchlistSummary := do
  let created ← committingUnique "watchlist name already exists for this user"
    (WatchlistRepository.create userId payload.name payload.isDefault)
  refreshed userId created.id

def addWatchlistItem (payload : CreateWatchlistItemRequest) (watchlistId userId : Nat) :
    UserApp WatchlistItem := do
  let watchlist ← loadOwnedWatchlist userId watchlistId
  if ← Program.query (.stockBySymbol payload.symbol) fun db =>
      db.stockSymbols.contains payload.symbol then
    committingUnique "symbol already in this watchlist"
      (WatchlistItemRepository.addItem upper watchlist.id payload.symbol payload.memo)
  else .raise (.http 404 "symbol not found in stocks")

/-- `except ValueError`, of a symbol that is empty once stripped. -/
def unprocessable : UserError → UserError
  | .valueError message => .http 422 message
  | error => error

def removeWatchlistItem (watchlistId : Nat) (symbol : String) (userId : Nat) : UserApp Unit := do
  let watchlist ← loadOwnedWatchlist userId watchlistId
  match ← (WatchlistItemRepository.removeItem upper watchlist.id symbol).attempt with
  | .error error => .raise (unprocessable error)
  | .ok false => .raise (.http 404 "symbol not in this watchlist")
  | .ok true => Program.committed

def applyName (watchlist : Watchlist) (payload : PatchWatchlistRequest) : UserApp Watchlist :=
  match payload.name with
  | some newName => WatchlistRepository.rename watchlist newName
  | none => pure watchlist

/-- The name first, then the default: `is_default=False` changes nothing. -/
def applyPatch (watchlist : Watchlist) (payload : PatchWatchlistRequest) : UserApp Watchlist := do
  let watchlist ← applyName watchlist payload
  if payload.isDefault = some true then WatchlistRepository.setDefault watchlist
  else pure watchlist

def patchWatchlist (payload : PatchWatchlistRequest) (watchlistId userId : Nat) :
    UserApp WatchlistSummary :=
  if payload.name = none ∧ payload.isDefault = none then
    .raise (.http 422 "at least one of name or is_default must be provided")
  else do
    let watchlist ← loadOwnedWatchlist userId watchlistId
    let _ ← committingUnique "watchlist name already exists for this user"
      (applyPatch watchlist payload)
    refreshed userId watchlistId

def deleteWatchlist (watchlistId userId : Nat) : UserApp Unit := do
  let watchlist ← loadOwnedWatchlist userId watchlistId
  WatchlistRepository.delete watchlist
  Program.committed

def patchWatchlistItem (payload : PatchWatchlistItemRequest) (watchlistId : Nat) (symbol : String)
    (userId : Nat) : UserApp WatchlistItem := do
  let watchlist ← loadOwnedWatchlist userId watchlistId
  let canonical ← .ofExcept ((normalizeSymbol upper symbol).mapError unprocessable)
  let some item ← WatchlistItemRepository.getItem upper watchlist.id canonical
    | .raise (.http 404 "symbol not in this watchlist")
  match ← (WatchlistItemRepository.updateMemo item payload.memo).attempt with
  | .ok updated =>
    Program.committed
    pure updated
  | .error error => .rollback (.raise (unprocessable error))

end WatchlistRoutes

namespace PreferencesRoutes

def getPreferences (userId : Nat) : UserApp UserPreference := do
  let preference ← UserPreferenceRepository.getOrCreateForUser userId
  Program.committed
  pure preference

/-- A watchlist that is to be the default has to be the user's own. -/
def checkDefaultWatchlist (payload : PutUserPreferenceRequest) (userId : Nat) : UserApp Unit := do
  match payload.defaultWatchlistId with
  | none => pure ()
  | some watchlistId =>
    let _ ← WatchlistRoutes.loadOwnedWatchlist userId watchlistId
    pure ()

def putPreferences (payload : PutUserPreferenceRequest) (userId : Nat) : UserApp UserPreference := do
  checkDefaultWatchlist payload userId
  let preference ← UserPreferenceRepository.getOrCreateForUser userId
  let preference ← UserPreferenceRepository.update preference payload
  Program.committed
  pure preference

end PreferencesRoutes

end StockAiPlatform
