import BulkDml.Session.Savepoint
import BulkDml.Store.Statement

namespace BulkDml.Store

def reported {α : Type} (action : Action α) : Operation Database α := fun db =>
  let (answer, db) := action db
  (answer.mapError Failure.toError, db)

def engine : Engine Database where
  backend := .sqlite
  autocommit := Database.autocommit
  execute r := reported (Database.execute r.command)
  query r := reported (Database.run r.command)
  savepoint name := reported (Database.savepoint name)
  release name := reported (Database.release name)
  rollbackTo name := reported (Database.rollbackTo name)
  rollback := reported Database.rollback
  setBusyTimeout ms db := (.ok (), { db with busyTimeout := ms })

def handle (db : Database) : Handle Database := ⟨db, false⟩

end BulkDml.Store
