import Yardstick.Table

/-!
# Catalogs of texts

A catalog holds the texts of one locale: messages by key, and messages that apply in a context only.
A translator holds one catalog for each locale, the later ones merged into the earlier, and answers
from the active locale, then from the fallback.
-/

namespace Yardstick

/-- The texts of one locale. -/
structure Catalog where
  locale : String
  messages : Table String
  /-- For each context its own messages. -/
  contexts : Table (Table String)
  deriving Repr, DecidableEq

namespace Catalog

/-- The text of a key, in a context if one is given. An empty text is a text. -/
def get? (c : Catalog) (key : String) : (context : Option String) → Option String
  | none => c.messages.get? key
  | some name => (c.contexts.get? name).bind (·.get? key)

/-- The messages of one context put into those of the same context. -/
def mergeContext (contexts : Table (Table String)) (e : String × Table String) :
    Table (Table String) :=
  contexts.put e.1 (((contexts.get? e.1).getD .empty).merge e.2)

/-- The texts of both catalogs, of which the later one wins key by key. -/
def merge (earlier later : Catalog) : Catalog where
  locale := later.locale
  messages := earlier.messages.merge later.messages
  contexts := later.contexts.entries.foldl mergeContext earlier.contexts

end Catalog

/-- The catalogs in use, by locale. -/
structure Translator where
  catalogs : Table Catalog
  locale : String
  fallback : String
  deriving Repr, DecidableEq

namespace Translator

/-- Adds a catalog for its locale, or merges it into the one that is there. -/
def add (t : Translator) (c : Catalog) : Translator :=
  { t with catalogs := t.catalogs.put c.locale (((t.catalogs.get? c.locale).map (·.merge c)).getD c) }

def ofCatalogs (catalogs : List Catalog) (locale fallback : String) : Translator :=
  catalogs.foldl add ⟨.empty, locale, fallback⟩

/-- Makes another locale the active one, whether it has a catalog or not. -/
def setLocale (t : Translator) (locale : String) : Translator := { t with locale }

/-- The text that one locale holds. -/
def getIn? (t : Translator) (locale key : String) (context : Option String) : Option String :=
  (t.catalogs.get? locale).bind (·.get? key context)

/-- The text of a key in the active locale, else in the fallback. -/
def resolve (t : Translator) (key : String) (context : Option String) : Option String :=
  (t.getIn? t.locale key context).or (t.getIn? t.fallback key context)

/-- The text of a key, or a default if there is none or an empty one. -/
def textOr (t : Translator) (key default : String) : String :=
  match t.resolve key none with
  | some text => if text = "" then default else text
  | none => default

end Translator

end Yardstick
