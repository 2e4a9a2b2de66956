import StockAiPlatform.Data.WatchlistRepository
import StockAiPlatform.Python.Text

/-! # Items of watchlists

Symbols are stripped and raised before they are stored or looked up; `upper`
is Python's.
-/

namespace StockAiPlatform
set_option autoImplicit false

open Transaction Python

def maxMemoLength : Nat := 500

def normalizeSymbol (upper : String → String) (symbol : String) : Except UserError String :=
  let cleaned := upper (String.ofList (strip symbol.toList))
  if cleaned = "" then .error (.valueError "symbol must not be empty") else .ok cleaned

def validateMemo (memo : Option String) : Except UserError Unit :=
  match memo with
  | none => .ok ()
  | some text =>
    if maxMemoLength < text.length then
      .error (.valueError s!"memo must be at most {maxMemoLength} chars (got {text.length})")
    else .ok ()

namespace WatchlistItemRepository

variable (upper : String → String)

def isItem (watchlistId : Nat) (symbol : String) (row : WatchlistItem) : Bool :=
  row.watchlistId == watchlistId && row.symbol == symbol

def noted (memo : Option String) (row : WatchlistItem) : WatchlistItem := { row with memo := memo }

theorem id_noted (memo : Option String) (row : WatchlistItem) : (noted memo row).id = row.id := rfl

def insertRow (row : WatchlistItem) (db : UserDatabase) : UserDatabase :=
  { db with watchlistItems := db.watchlistItems.insert row }

def storeMemo (itemId : Nat) (memo : Option String) (db : UserDatabase) : UserDatabase where
  __ := db
  watchlistItems := db.watchlistItems.updateWhere (fun row => row.id == itemId) (noted memo)
    (id_noted memo)

def deleteRow (itemId : Nat) (db : UserDatabase) : UserDatabase :=
  { db with watchlistItems := db.watchlistItems.deleteWhere fun row => row.id == itemId }

/-- The keys of the table: its watchlist exists, and the symbol is new to it. -/
def accepts (watchlistId : Nat) (symbol : String) (db : UserDatabase) : Bool :=
  (db.watchlists.find? watchlistId).isSome && !db.watchlistItems.rows.any (isItem watchlistId symbol)

def addItem (watchlistId : Nat) (symbol : String) (memo : Option String) :
    UserApp WatchlistItem := do
  let canonical ← .ofExcept (normalizeSymbol upper symbol)
  .ofExcept (validateMemo memo)
  if ← Program.query (.constraint "watchlist_items") (accepts watchlistId canonical) then
    let id ← Program.allocated fun db => db.watchlistItems.nextKey
    Program.modify (insertRow ⟨id, watchlistId, canonical, memo⟩)
    pure ⟨id, watchlistId, canonical, memo⟩
  else .raise .integrity

def updateMemo (item : WatchlistItem) (memo : Option String) : UserApp WatchlistItem := do
  .ofExcept (validateMemo memo)
  Program.modify (storeMemo item.id memo)
  pure (noted memo item)

def getItem (watchlistId : Nat) (symbol : String) : UserApp (Option WatchlistItem) := do
  let canonical ← .ofExcept (normalizeSymbol upper symbol)
  Program.query (.itemBySymbol watchlistId canonical) fun db =>
    db.watchlistItems.rows.find? (isItem watchlistId canonical)

def removeItem (watchlistId : Nat) (symbol : String) : UserApp Bool := do
  let canonical ← .ofExcept (normalizeSymbol upper symbol)
  let some item ← getItem upper watchlistId canonical | return false
  Program.modify (deleteRow item.id)
  return true

def countItems (watchlistId : Nat) (db : UserDatabase) : Nat :=
  db.watchlistItems.rows.countP fun row => row.watchlistId == watchlistId

section Rules

variable {upper} {kept : UserDatabase → Prop} {raised : UserError → UserDatabase → Prop}
  {view : UserDatabase} {watchlistId : Nat} {symbol : String}

theorem wp_addItem {memo : Option String} {post : WatchlistItem → UserDatabase → Prop}
    (hNew : ∀ canonical, accepts watchlistId canonical view = true →
      post ⟨view.watchlistItems.nextKey, watchlistId, canonical, memo⟩
        (insertRow ⟨view.watchlistItems.nextKey, watchlistId, canonical, memo⟩ view))
    (hRefused : ∀ error, raised error view) :
    (addItem upper watchlistId symbol memo).wp kept post raised view := by
  refine Program.wp_bind.mpr (Program.wp_ofExcept (fun canonical _ => ?_) fun error _ =>
    hRefused error)
  refine Program.wp_bind.mpr (Program.wp_ofExcept (fun _ _ => ?_) fun error _ => hRefused error)
  exact Program.wp_ite (fun hAccepted => hNew canonical hAccepted) fun _ => hRefused _

theorem wp_updateMemo {item : WatchlistItem} {memo : Option String}
    {post : WatchlistItem → UserDatabase → Prop} (hSet : post (noted memo item) (storeMemo item.id memo view))
    (hRefused : ∀ error, raised error view) : (updateMemo item memo).wp kept post raised view :=
  Program.wp_bind.mpr (Program.wp_ofExcept (fun _ _ => hSet) fun error _ => hRefused error)

theorem wp_getItem {post : Option WatchlistItem → UserDatabase → Prop} (hNone : post none view)
    (hFound : ∀ item ∈ view.watchlistItems.rows, item.watchlistId = watchlistId →
      post (some item) view)
    (hRefused : ∀ error, raised error view) :
    (getItem upper watchlistId symbol).wp kept post raised view := by
  refine Program.wp_bind.mpr (Program.wp_ofExcept (fun canonical _ => ?_) fun error _ =>
    hRefused error)
  show post (view.watchlistItems.rows.find? (isItem watchlistId canonical)) view
  cases hItem : view.watchlistItems.rows.find? (isItem watchlistId canonical) with
  | none => exact hNone
  | some item =>
    have hFields := List.find?_some hItem
    rw [isItem, Bool.and_eq_true, beq_iff_eq] at hFields
    exact hFound item (List.mem_of_find?_eq_some hItem) hFields.1

theorem wp_removeItem {post : Bool → UserDatabase → Prop} (hNone : post false view)
    (hFound : ∀ item ∈ view.watchlistItems.rows, item.watchlistId = watchlistId →
      post true (deleteRow item.id view))
    (hRefused : ∀ error, raised error view) :
    (removeItem upper watchlistId symbol).wp kept post raised view := by
  refine Program.wp_bind.mpr (Program.wp_ofExcept (fun canonical _ => ?_) fun error _ =>
    hRefused error)
  exact Program.wp_bind.mpr (wp_getItem hNone hFound hRefused)

end Rules

end WatchlistItemRepository

end StockAiPlatform
