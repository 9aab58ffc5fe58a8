import Yardstick.Catalog
import Yardstick.Schema.Basic

/-!
# Catalog documents

A catalog document names its locale and may hold messages and contexts.
-/

namespace Yardstick.Catalog

open Schema Schema.Checked

def localeKey : Key := .plain "locale"
def messagesKey : Key := .plain "messages"
def contextsKey : Key := .plain "contexts"

/-- The catalog of a document. -/
def ofMembers (ms : List (String × Json)) : Checked Catalog :=
  (required localeKey nonemptyText ms).map Catalog.mk
    |> (app · (optional messagesKey .empty (table text) ms))
    |> (app · (optional contextsKey .empty (table (table text)) ms))

def messagesJson (t : Table String) : Json := .obj (t.entries.map fun (k, s) => (k, .str s))

/-- The document of a catalog. -/
def toMembers (c : Catalog) (style : Style) : List (String × Json) :=
  [(localeKey.inStyle style, .str c.locale),
   (messagesKey.inStyle style, messagesJson c.messages),
   (contextsKey.inStyle style, .obj (c.contexts.entries.map fun (k, t) => (k, messagesJson t)))]

end Yardstick.Catalog
