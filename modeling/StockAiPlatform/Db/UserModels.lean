import StockAiPlatform.Python.Json
import StockAiPlatform.Transaction.Program
import StockAiPlatform.Transaction.Table

/-! # The rows that belong to users

Users with their login audit, watchlists and preferences. The foreign keys
and unique constraints of these tables are checked where a row is written.
-/

namespace StockAiPlatform
set_option autoImplicit false

open Transaction Python

structure User where
  id : Nat
  username : String
  passwordHash : String
  isActive : Bool
  isAdmin : Bool
  lastLoginAt : Option Int := none

/-- `EVENT_TYPES` of the login audit log. -/
inductive LoginEvent where
  | loginSuccess | loginFailed | logout | lockoutRejected
  deriving DecidableEq, Repr

namespace LoginEvent

def value : LoginEvent → String
  | loginSuccess => "LOGIN_SUCCESS"
  | loginFailed => "LOGIN_FAILED"
  | logout => "LOGOUT"
  | lockoutRejected => "LOCKOUT_REJECTED"

end LoginEvent

structure LoginAuditLog where
  eventType : LoginEvent
  username : Option String
  userId : Option Nat
  sourceIpHash : Option String
  userAgentHash : Option String
  deriving DecidableEq, Repr

structure Watchlist where
  id : Nat
  userId : Nat
  name : String
  isDefault : Bool
  deriving DecidableEq, Repr

structure WatchlistItem where
  id : Nat
  watchlistId : Nat
  symbol : String
  memo : Option String
  deriving DecidableEq, Repr

structure UserPreference where
  id : Nat
  userId : Nat
  defaultWatchlistId : Option Nat := none
  defaultMarket : Option String := none
  defaultStrategy : Option String := none
  dashboardLayoutJson : Option Json := none
  notificationPreferencesJson : Option Json := none

instance : Keyed User := ⟨User.id⟩
instance : Keyed Watchlist := ⟨Watchlist.id⟩
instance : Keyed WatchlistItem := ⟨WatchlistItem.id⟩
instance : Keyed UserPreference := ⟨UserPreference.id⟩

@[simp] theorem key_user (u : User) : Keyed.key u = u.id := rfl
@[simp] theorem key_watchlist (w : Watchlist) : Keyed.key w = w.id := rfl
@[simp] theorem key_watchlistItem (i : WatchlistItem) : Keyed.key i = i.id := rfl
@[simp] theorem key_userPreference (p : UserPreference) : Keyed.key p = p.id := rfl

/-- `stockSymbols` are the symbols of the `stocks` table. -/
structure UserDatabase where
  users : Table User
  loginAuditLogs : List LoginAuditLog
  stockSymbols : List String
  watchlists : Table Watchlist
  watchlistItems : Table WatchlistItem
  userPreferences : Table UserPreference

def UserDatabase.empty : UserDatabase := ⟨∅, [], [], ∅, ∅, ∅⟩

/-- What the routes of a user answer with, or raise: a status with its detail, a broken
constraint, a failed assertion, or a missing JWT secret. -/
inductive UserError where
  | http (statusCode : Nat) (detail : String)
  | integrity
  | assertion
  | valueError (message : String)
  | missingSecret (message : String)
  deriving DecidableEq, Repr

inductive UserQuery where
  | userById (userId : Nat)
  | userByUsername (username : String)
  | watchlistByUserAndId (userId watchlistId : Nat)
  | stockBySymbol (symbol : String)
  | itemBySymbol (watchlistId : Nat) (symbol : String)
  | preferenceByUser (userId : Nat)
  | constraint (name : String)
  deriving DecidableEq, Repr

/-- Nothing outside the store is asked. -/
abbrev UserApp := Program UserDatabase UserQuery Empty (fun _ => Empty) UserError

abbrev UserSession := Session UserDatabase Empty (fun _ => Empty)

def nothingAsked (request : Empty) : Empty := request

end StockAiPlatform
