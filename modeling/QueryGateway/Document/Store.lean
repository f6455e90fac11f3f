import QueryGateway.Document.Collection
import QueryGateway.Dictionary

/-!
A store of collections by name.

A collection that was never written to is empty.
-/

namespace QueryGateway.Document

/-- The collections of a store. -/
structure Store where
  collections : Dictionary Collection := {}

namespace Store

/-- The store without documents. -/
def empty : Store := {}

/-- The documents of a collection. -/
def documents (store : Store) (collection : String) : Collection :=
  (store.collections.get? collection).getD []

/-- Replaces the documents of a collection. -/
def put (collection : String) (docs : Collection) (store : Store) : Store :=
  { collections := store.collections.insert collection docs }

/-- Inserts documents up to the first that is refused, and answers with their
number.  The documents before a refused one stay. -/
def seed (collection : String) (documents : List Json) (store : Store) (supply : Supply) :
    Except Error Nat × Store × Supply :=
  let inserted := Collection.insertEach documents (store.documents collection) supply
  (inserted.result.map List.length, store.put collection inserted.documents, inserted.supply)

/-- Runs a command on its collection. -/
def execute (c : Command) (store : Store) (supply : Supply) :
    Except Error (List Row) × Store × Supply :=
  let outcome := Collection.run c (store.documents c.collection) supply
  (outcome.result, store.put c.collection outcome.documents, outcome.supply)

end Store
end QueryGateway.Document
