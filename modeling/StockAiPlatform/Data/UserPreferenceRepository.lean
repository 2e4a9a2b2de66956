import StockAiPlatform.Data.WatchlistRepository

/-! # Preferences

One row for each user, created when it is first needed.
-/

namespace StockAiPlatform
set_option autoImplicit false

open Transaction Python

/-- What a PUT replaces, past its validators. -/
structure PutUserPreferenceRequest where
  defaultWatchlistId : Option Nat := none
  defaultMarket : Option String := none
  defaultStrategy : Option String := none
  dashboardLayoutJson : Option Json := none
  notificationPreferencesJson : Option Json := none

namespace UserPreferenceRepository

def insertRow (row : UserPreference) (db : UserDatabase) : UserDatabase :=
  { db with userPreferences := db.userPreferences.insert row }

def replaced (payload : PutUserPreferenceRequest) (row : UserPreference) : UserPreference where
  id := row.id
  userId := row.userId
  defaultWatchlistId := payload.defaultWatchlistId
  defaultMarket := payload.defaultMarket
  defaultStrategy := payload.defaultStrategy
  dashboardLayoutJson := payload.dashboardLayoutJson
  notificationPreferencesJson := payload.notificationPreferencesJson

theorem id_replaced (payload : PutUserPreferenceRequest) (row : UserPreference) :
    (replaced payload row).id = row.id := rfl

def storeReplaced (preferenceId : Nat) (payload : PutUserPreferenceRequest) (db : UserDatabase) :
    UserDatabase where
  __ := db
  userPreferences := db.userPreferences.updateWhere (fun row => row.id == preferenceId)
    (replaced payload) (id_replaced payload)

def ofUser (userId : Nat) (db : UserDatabase) : Option UserPreference :=
  db.userPreferences.rows.find? fun row => row.userId == userId

def getByUserId (userId : Nat) : UserApp (Option UserPreference) :=
  Program.query (.preferenceByUser userId) (ofUser userId)

/-- The user has no row yet, so of the keys only the one on users can refuse the new one. -/
def getOrCreateForUser (userId : Nat) : UserApp UserPreference := do
  match ← getByUserId userId with
  | some existing => pure existing
  | none =>
    if ← Program.query (.constraint "user_preferences.user_id") fun db => db.userKnown userId then
      let id ← Program.allocated fun db => db.userPreferences.nextKey
      Program.modify (insertRow (.mk id userId none none none none none))
      pure (.mk id userId none none none none none)
    else .raise .integrity

def watchlistKnown (payload : PutUserPreferenceRequest) (db : UserDatabase) : Bool :=
  payload.defaultWatchlistId.all fun watchlistId => (db.watchlists.find? watchlistId).isSome

def update (preference : UserPreference) (payload : PutUserPreferenceRequest) :
    UserApp UserPreference := do
  if ← Program.query (.constraint "user_preferences.default_watchlist_id")
      (watchlistKnown payload) then
    Program.modify (storeReplaced preference.id payload)
    pure (replaced payload preference)
  else .raise .integrity

section Rules

variable {kept : UserDatabase → Prop} {post : UserPreference → UserDatabase → Prop}
  {raised : UserError → UserDatabase → Prop} {view : UserDatabase}

theorem wp_getOrCreateForUser {userId : Nat}
    (hFound : ∀ row ∈ view.userPreferences.rows, row.userId = userId → post row view)
    (hCreated : post (.mk view.userPreferences.nextKey userId none none none none none)
      (insertRow (.mk view.userPreferences.nextKey userId none none none none none) view))
    (hRefused : raised .integrity view) : (getOrCreateForUser userId).wp kept post raised view := by
  refine Program.wp_bind.mpr (Program.wp_query.mpr ?_)
  cases hExisting : ofUser userId view with
  | some existing =>
    rw [ofUser] at hExisting
    have hUser := List.find?_some hExisting
    exact hFound existing (List.mem_of_find?_eq_some hExisting) (beq_iff_eq.mp hUser)
  | none => exact Program.wp_ite (fun _ => hCreated) fun _ => hRefused

theorem wp_update {preference : UserPreference} {payload : PutUserPreferenceRequest}
    (hStored : post (replaced payload preference) (storeReplaced preference.id payload view))
    (hRefused : raised .integrity view) : (update preference payload).wp kept post raised view :=
  Program.wp_ite (fun _ => hStored) fun _ => hRefused

end Rules

end UserPreferenceRepository

end StockAiPlatform
