import StockAiPlatform.Api.WatchlistRoutes
import StockAiPlatform.Data.WatchlistInvariants

/-! # Watchlists over whole runs

Every state a request commits is consistent and has the rows of all other
users as they were before it.
-/

namespace StockAiPlatform
set_option autoImplicit false

open Transaction Python

/-- A state in the middle of a user's request: consistent, and the others' rows as they were. -/
structure Upheld (userId : Nat) (db view : UserDatabase) : Prop where
  consistent : view.Consistent
  others : ∀ other, other ≠ userId → UserDatabase.SameFor other db view

namespace Upheld

open UserDatabase

variable {userId watchlistId : Nat} {db view after : UserDatabase}

theorem extend (h : Upheld userId db view) (hConsistent : after.Consistent)
    (hOthers : ∀ other, other ≠ userId → SameFor other view after) : Upheld userId db after :=
  ⟨hConsistent, fun other hOther => (h.others other hOther).trans (hOthers other hOther)⟩

theorem refl (userId : Nat) (h : db.Consistent) : Upheld userId db db :=
  ⟨h, fun other _ => SameFor.refl other db⟩

end Upheld

namespace WatchlistRoutes

open UserDatabase

variable {userId watchlistId : Nat} {db view : UserDatabase}
  {kept : UserDatabase → Prop} {upper : String → String}

theorem wp_loadOwnedWatchlist {post : Watchlist → UserDatabase → Prop}
    (h : ∀ watchlist ∈ view.watchlists.rows, watchlist.id = watchlistId →
      watchlist.userId = userId → post watchlist view) :
    (loadOwnedWatchlist userId watchlistId).wp kept post (fun _ _ => True) view := by
  refine Program.wp_bind.mpr (Program.wp_query.mpr ?_)
  cases hOwned : WatchlistRepository.owned? userId watchlistId view with
  | none => trivial
  | some watchlist =>
    obtain ⟨hMem, hId, hUser⟩ := WatchlistRepository.owned?_eq_some hOwned
    exact h watchlist hMem hId hUser

theorem wp_committingUnique {α : Type} {p : UserApp α} {post : α → UserDatabase → Prop}
    (detail : String) (h : p.wp kept (fun value after => kept after ∧ post value after)
      (fun _ _ => True) view) :
    (committingUnique detail p).wp kept post (fun _ _ => True) view := by
  refine Program.wp_bind.mpr (Program.wp_attempt.mpr (Program.wp_mono ?_ ?_ h))
  · exact fun value after hAfter => hAfter
  · intro error after _
    cases error with
    | integrity => exact fun _ _ => trivial
    | _ => trivial

/-- Nothing is written after the commit. -/
theorem wp_refreshed : (refreshed userId watchlistId).wp kept (fun _ _ => True) (fun _ _ => True) view := by
  refine Program.wp_bind.mpr (Program.wp_query.mpr ?_)
  cases WatchlistRepository.owned? userId watchlistId view <;> trivial

section Create

open WatchlistRepository

theorem upheld_add {name : String} {isDefault : Bool} (h : Upheld userId db view)
    (hNone : isDefault = true → ∀ row ∈ view.watchlists.rows, row.userId = userId →
      row.isDefault = false) :
    (add userId name isDefault).wp kept (fun _ after => Upheld userId db after)
      (fun _ _ => True) view :=
  wp_add (fun hFree => h.extend (consistent_insertRow h.consistent hFree hNone)
    fun _ hOther => sameFor_insertRow hOther name isDefault view) trivial

theorem upheld_clearDefault (h : Upheld userId db view) :
    Upheld userId db (clearDefault userId view) :=
  h.extend (consistent_clearDefault userId h.consistent) fun _ hOther =>
    sameFor_clearDefault hOther view

/-- Once demoted, no watchlist of the user is a default. -/
theorem no_default_clearDefault (userId : Nat) (view : UserDatabase) :
    ∀ row ∈ (clearDefault userId view).watchlists.rows, row.userId = userId →
      row.isDefault = false := by
  intro row hRow hUser
  obtain ⟨before, -, -, -, -, hDefault⟩ := mem_clearDefault hRow
  exact eq_false_of_ne_true fun hTrue => (hDefault hTrue).2 hUser

theorem upheld_create {name : String} {isDefault : Bool} (h : Upheld userId db view) :
    (create userId name isDefault).wp kept (fun _ after => Upheld userId db after)
      (fun _ _ => True) view := by
  cases isDefault with
  | false => exact upheld_add h fun hDefault => absurd hDefault Bool.false_ne_true
  | true => exact upheld_add (upheld_clearDefault h) fun _ => no_default_clearDefault userId view

end Create

section Patch

open WatchlistRepository

/-- The watchlist a route works on, in the state it has come to. -/
structure Working (userId : Nat) (db : UserDatabase) (watchlist : Watchlist) (view : UserDatabase) :
    Prop where
  upheld : Upheld userId db view
  owned : OwnedBy userId watchlist.id view
  user : watchlist.userId = userId

variable {watchlist : Watchlist}

theorem working_rename (h : Working userId db watchlist view) (newName : String) :
    (rename watchlist newName).wp kept (Working userId db) (fun _ _ => True) view := by
  refine wp_rename (fun hFree => ?_) trivial
  rw [h.user] at hFree
  refine ⟨h.upheld.extend (consistent_storeName h.upheld.consistent h.owned hFree)
    fun _ hOther => sameFor_storeName hOther h.owned newName, ?_, h.user⟩
  intro row hRow hId
  obtain ⟨before, hMem, hSame, hUser, -⟩ := mem_storeName hRow
  rw [← hUser]
  exact h.owned before hMem (hSame.trans hId)

theorem working_setDefault (h : Working userId db watchlist view) :
    (setDefault watchlist).wp kept (fun _ after => Upheld userId db after)
      (fun _ _ => True) view := by
  refine wp_setDefault (fun _ => h.upheld) ?_
  rw [h.user]
  have hOwned : OwnedBy userId watchlist.id (clearDefault userId view) := by
    intro row hRow hId
    obtain ⟨before, hMem, hSame, hUser, -⟩ := mem_clearDefault hRow
    rw [← hUser]
    exact h.owned before hMem (hSame.trans hId)
  have hCleared := upheld_clearDefault h.upheld
  exact hCleared.extend
    (consistent_storeDefault hCleared.consistent hOwned (no_default_clearDefault userId view))
    fun _ hOther => sameFor_storeDefault hOther hOwned

theorem working_applyPatch (h : Working userId db watchlist view) (payload : PatchWatchlistRequest) :
    (applyPatch watchlist payload).wp kept (fun _ after => Upheld userId db after)
      (fun _ _ => True) view := by
  have hNamed : (applyName watchlist payload).wp kept (Working userId db) (fun _ _ => True) view := by
    unfold applyName
    cases payload.name with
    | none => exact h
    | some newName => exact working_rename h newName
  refine Program.wp_bind.mpr (Program.wp_mono ?_ (fun _ _ hRaised => hRaised) hNamed)
  intro named after hWorking
  exact Program.wp_ite (fun _ => working_setDefault hWorking) fun _ => hWorking.upheld

end Patch

theorem working_of_owned (h : db.Consistent) {watchlist : Watchlist}
    (hMem : watchlist ∈ db.watchlists.rows) (hUser : watchlist.userId = userId) :
    Working userId db watchlist db :=
  ⟨.refl userId h, WatchlistRepository.ownedBy_of_mem hMem hUser, hUser⟩

/-- The route commits only consistent states that leave the rows of others alone. -/
abbrev Safe {α : Type} (userId : Nat) (db : UserDatabase) (p : UserApp α) : Prop :=
  p.wp (Upheld userId db) (fun _ _ => True) (fun _ _ => True) db

section Routes

variable (h : db.Consistent)
include h

theorem safe_createWatchlist (payload : CreateWatchlistRequest) :
    Safe userId db (createWatchlist payload userId) := by
  refine Program.wp_bind.mpr (wp_committingUnique _ ?_)
  refine Program.wp_mono (fun _ _ hAfter => ⟨hAfter, wp_refreshed⟩) (fun _ _ hRaised => hRaised)
    (upheld_create (.refl userId h))

theorem safe_addWatchlistItem (payload : CreateWatchlistItemRequest) :
    Safe userId db (addWatchlistItem upper payload watchlistId userId) := by
  refine Program.wp_bind.mpr (wp_loadOwnedWatchlist fun watchlist hMem _ hUser => ?_)
  refine Program.wp_ite (fun _ => wp_committingUnique _ ?_) fun _ => trivial
  have hOwned := WatchlistRepository.ownedBy_of_mem hMem hUser
  refine WatchlistItemRepository.wp_addItem (fun canonical hAccepted => ⟨?_, trivial⟩) fun _ => trivial
  exact (Upheld.refl userId h).extend (WatchlistItemRepository.consistent_insertRow h hAccepted)
    fun _ hOther => WatchlistItemRepository.sameFor_insertRow hOther hOwned

theorem safe_removeWatchlistItem (symbol : String) :
    Safe userId db (removeWatchlistItem upper watchlistId symbol userId) := by
  refine Program.wp_bind.mpr (wp_loadOwnedWatchlist fun watchlist hMem _ hUser => ?_)
  refine Program.wp_bind.mpr (Program.wp_attempt.mpr ?_)
  have hOwned := WatchlistRepository.ownedBy_of_mem hMem hUser
  refine WatchlistItemRepository.wp_removeItem trivial (fun item hItem hWatchlist => ?_)
    fun _ => trivial
  refine ⟨?_, trivial⟩
  exact (Upheld.refl userId h).extend (WatchlistItemRepository.consistent_deleteRow item.id h)
    fun _ hOther => WatchlistItemRepository.sameFor_deleteRow hOther hOwned hItem hWatchlist

theorem safe_patchWatchlist (payload : PatchWatchlistRequest) :
    Safe userId db (patchWatchlist payload watchlistId userId) := by
  refine Program.wp_ite (fun _ => trivial) fun _ => ?_
  refine Program.wp_bind.mpr (wp_loadOwnedWatchlist fun watchlist hMem _ hUser => ?_)
  refine Program.wp_bind.mpr (wp_committingUnique _ ?_)
  exact Program.wp_mono (fun _ _ hAfter => ⟨hAfter, wp_refreshed⟩) (fun _ _ hRaised => hRaised)
    (working_applyPatch (working_of_owned h hMem hUser) payload)

theorem safe_deleteWatchlist : Safe userId db (deleteWatchlist watchlistId userId) := by
  refine Program.wp_bind.mpr (wp_loadOwnedWatchlist fun watchlist hMem _ hUser => ⟨?_, trivial⟩)
  exact (Upheld.refl userId h).extend (WatchlistRepository.consistent_deleteRow watchlist.id h)
    fun _ hOther => WatchlistRepository.sameFor_deleteRow h hOther
      (WatchlistRepository.ownedBy_of_mem hMem hUser)

theorem safe_patchWatchlistItem (payload : PatchWatchlistItemRequest) (symbol : String) :
    Safe userId db (patchWatchlistItem upper payload watchlistId symbol userId) := by
  refine Program.wp_bind.mpr (wp_loadOwnedWatchlist fun watchlist hMem _ hUser => ?_)
  have hOwned := WatchlistRepository.ownedBy_of_mem hMem hUser
  refine Program.wp_bind.mpr (Program.wp_ofExcept (fun canonical _ => ?_) fun _ _ => trivial)
  refine Program.wp_bind.mpr (WatchlistItemRepository.wp_getItem trivial
    (fun item hItem hWatchlist => ?_) fun _ => trivial)
  refine Program.wp_bind.mpr (Program.wp_attempt.mpr ?_)
  refine WatchlistItemRepository.wp_updateMemo ⟨?_, trivial⟩ fun _ _ _ => trivial
  exact (Upheld.refl userId h).extend
    (WatchlistItemRepository.consistent_storeMemo item.id payload.memo h)
    fun _ hOther => WatchlistItemRepository.sameFor_storeMemo hOther hOwned hItem hWatchlist _

end Routes

end WatchlistRoutes

namespace PreferencesRoutes

open UserDatabase UserPreferenceRepository

variable {userId : Nat} {db view : UserDatabase} {kept : UserDatabase → Prop}

theorem wp_checkDefaultWatchlist (payload : PutUserPreferenceRequest)
    {post : Unit → UserDatabase → Prop}
    (h : (∀ watchlistId, payload.defaultWatchlistId = some watchlistId → view.Holds userId watchlistId) →
      post () view) :
    (checkDefaultWatchlist payload userId).wp kept post (fun _ _ => True) view := by
  unfold checkDefaultWatchlist
  cases hDefault : payload.defaultWatchlistId with
  | none =>
    refine h fun watchlistId hSome => ?_
    rw [hDefault] at hSome
    cases hSome
  | some watchlistId =>
    refine Program.wp_bind.mpr (WatchlistRoutes.wp_loadOwnedWatchlist
      fun watchlist hMem hId hUser => h fun chosen hSome => ?_)
    rw [hDefault] at hSome
    obtain rfl := Option.some.inj hSome
    exact ⟨watchlist, hMem, hId, hUser⟩

/-- The user's row, found or created; the watchlists are as they were. -/
theorem upheld_getOrCreate (h : db.Consistent) :
    (getOrCreateForUser userId).wp kept (fun preference after => Upheld userId db after ∧
      OwnedBy userId preference.id after ∧ after.watchlists = db.watchlists) (fun _ _ => True) db := by
  refine wp_getOrCreateForUser (fun row hMem hUser => ?_) ?_ trivial
  · exact ⟨.refl userId h, ownedBy_of_mem hMem hUser, rfl⟩
  · refine ⟨(Upheld.refl userId h).extend (consistent_insertRow userId h)
      fun _ hOther => sameFor_insertRow hOther db, ?_, rfl⟩
    have hMem : newRow userId db ∈ (insertRow (newRow userId db) db).userPreferences.rows := by
      rw [rows_insertRow]
      exact List.mem_append_right _ (List.mem_singleton_self _)
    exact ownedBy_of_mem hMem rfl

variable (h : db.Consistent)
include h

theorem safe_getPreferences : WatchlistRoutes.Safe userId db (getPreferences userId) := by
  refine Program.wp_bind.mpr (Program.wp_mono ?_ (fun _ _ hRaised => hRaised) (upheld_getOrCreate h))
  exact fun _ _ hAfter => ⟨hAfter.1, trivial⟩

theorem safe_putPreferences (payload : PutUserPreferenceRequest) :
    WatchlistRoutes.Safe userId db (putPreferences payload userId) := by
  refine Program.wp_bind.mpr (wp_checkDefaultWatchlist payload fun hOwn => ?_)
  refine Program.wp_bind.mpr (Program.wp_mono ?_ (fun _ _ hRaised => hRaised) (upheld_getOrCreate h))
  rintro preference after ⟨hUpheld, hOwned, hWatchlists⟩
  refine Program.wp_bind.mpr (wp_update ⟨?_, trivial⟩ trivial)
  refine hUpheld.extend (consistent_storeReplaced hUpheld.consistent hOwned ?_)
    fun _ hOther => sameFor_storeReplaced hOther hOwned
  intro watchlistId hDefault
  rw [Holds, hWatchlists]
  exact hOwn watchlistId hDefault

end PreferencesRoutes

inductive WatchlistAction where
  | createWatchlist (payload : CreateWatchlistRequest)
  | addWatchlistItem (payload : CreateWatchlistItemRequest) (watchlistId : Nat)
  | removeWatchlistItem (watchlistId : Nat) (symbol : String)
  | patchWatchlist (payload : PatchWatchlistRequest) (watchlistId : Nat)
  | deleteWatchlist (watchlistId : Nat)
  | patchWatchlistItem (payload : PatchWatchlistItemRequest) (watchlistId : Nat) (symbol : String)
  | getPreferences
  | putPreferences (payload : PutUserPreferenceRequest)

/-- A request, by the user it is authenticated as. -/
structure WatchlistCall where
  userId : Nat
  action : WatchlistAction

namespace WatchlistCall

open WatchlistRoutes PreferencesRoutes

def step (upper : String → String) (call : WatchlistCall) (db : UserDatabase) : UserDatabase :=
  match call.action with
  | .createWatchlist payload => (createWatchlist payload call.userId).served nothingAsked db
  | .addWatchlistItem payload watchlistId =>
    (addWatchlistItem upper payload watchlistId call.userId).served nothingAsked db
  | .removeWatchlistItem watchlistId symbol =>
    (removeWatchlistItem upper watchlistId symbol call.userId).served nothingAsked db
  | .patchWatchlist payload watchlistId =>
    (patchWatchlist payload watchlistId call.userId).served nothingAsked db
  | .deleteWatchlist watchlistId => (deleteWatchlist watchlistId call.userId).served nothingAsked db
  | .patchWatchlistItem payload watchlistId symbol =>
    (patchWatchlistItem upper payload watchlistId symbol call.userId).served nothingAsked db
  | .getPreferences => (getPreferences call.userId).served nothingAsked db
  | .putPreferences payload => (putPreferences payload call.userId).served nothingAsked db

/-- The rows of every other user are the same after the request. -/
def SparesOthers (upper : String → String) (call : WatchlistCall) (db : UserDatabase) : Prop :=
  ∀ other, other ≠ call.userId → UserDatabase.SameFor other db (call.step upper db)

theorem upheld_step (upper : String → String) (call : WatchlistCall) {db : UserDatabase}
    (h : db.Consistent) : Upheld call.userId db (call.step upper db) := by
  have hStored := Upheld.refl call.userId h
  unfold step
  cases call.action with
  | createWatchlist payload => exact Program.kept_served _ hStored (safe_createWatchlist h payload)
  | addWatchlistItem payload watchlistId =>
    exact Program.kept_served _ hStored (safe_addWatchlistItem h payload)
  | removeWatchlistItem watchlistId symbol =>
    exact Program.kept_served _ hStored (safe_removeWatchlistItem h symbol)
  | patchWatchlist payload watchlistId =>
    exact Program.kept_served _ hStored (safe_patchWatchlist h payload)
  | deleteWatchlist watchlistId => exact Program.kept_served _ hStored (safe_deleteWatchlist h)
  | patchWatchlistItem payload watchlistId symbol =>
    exact Program.kept_served _ hStored (safe_patchWatchlistItem h payload symbol)
  | getPreferences => exact Program.kept_served _ hStored (safe_getPreferences h)
  | putPreferences payload => exact Program.kept_served _ hStored (safe_putPreferences h payload)

/-- Over every run of requests by any users: the four invariants hold in the state reached, and
no request on the way touched the rows of anyone else. -/
theorem consistent_run (upper : String → String) (calls : List WatchlistCall) (db : UserDatabase)
    (h : db.Consistent) : (run (step upper) calls db).Consistent ∧
      Along (step upper) (SparesOthers upper) calls db := by
  induction calls generalizing db with
  | nil => exact ⟨h, trivial⟩
  | cons call calls ih =>
    have hStep := upheld_step upper call h
    obtain ⟨hRun, hAlong⟩ := ih (call.step upper db) hStep.consistent
    exact ⟨hRun, hStep.others, hAlong⟩

def registeredUser (id : Nat) : User where
  id := id
  username := "user"
  passwordHash := ""
  isActive := true
  isAdmin := false

def twoUsers : UserDatabase where
  __ := UserDatabase.empty
  users := (Table.empty.insert (registeredUser 1)).insert (registeredUser 2)
  stockSymbols := ["005930"]

theorem consistent_twoUsers : twoUsers.Consistent where
  singleDefault := fun _ hMem => absurd hMem List.not_mem_nil
  uniqueName := fun _ hMem => absurd hMem List.not_mem_nil
  uniqueSymbol := fun _ hMem => absurd hMem List.not_mem_nil
  ownDefault := fun _ hMem => absurd hMem List.not_mem_nil

theorem name_ok_main : "main" ≠ "" ∧ "main".length ≤ 64 := by decide

theorem name_ok_other : "other" ≠ "" ∧ "other".length ≤ 64 := by decide

def twoDefaults : List WatchlistCall :=
  [⟨1, .createWatchlist ⟨"main", true, name_ok_main⟩⟩,
    ⟨1, .createWatchlist ⟨"other", true, name_ok_other⟩⟩,
    ⟨2, .createWatchlist ⟨"main", true, name_ok_main⟩⟩,
    ⟨1, .putPreferences { defaultWatchlistId := some 1 }⟩,
    ⟨2, .deleteWatchlist 1⟩]

/-- The second default demotes the first, and the stranger's delete is refused. -/
theorem consistent_twoDefaults :
    (run (step id) twoDefaults twoUsers).Consistent ∧
      Along (step id) (SparesOthers id) twoDefaults twoUsers :=
  consistent_run id twoDefaults twoUsers consistent_twoUsers

example : (run (step id) twoDefaults twoUsers).watchlists.rows.map Watchlist.isDefault =
    [false, true, true] := by decide +kernel

end WatchlistCall

end StockAiPlatform
