import GatewayControl.Disk.Tree
import GatewayControl.Store.Files
import GatewayControl.Watch.Observer

/-!
Watching the directory of a store: one observation at the start and one after every change. What was
delivered waits until it is taken.
-/

namespace GatewayControl

structure DirectoryWatch where
  store : FileStore
  observer : Observer := {}
  waiting : List Delivery := []
deriving DecidableEq

namespace DirectoryWatch

def observe (watch : DirectoryWatch) (observation : Except StorageFault Snapshot) :
    Option Delivery × DirectoryWatch :=
  let (delivery, observer) := watch.observer.observe observation
  (delivery, { watch with observer })

def notice (watch : DirectoryWatch) (disk : Disk) : DirectoryWatch :=
  let (observation, _) := readSnapshot.run (watch.store.handle Disk.handle) disk
  let (delivery, watch) := watch.observe observation
  { watch with waiting := watch.waiting ++ delivery.toList }

def start (store : FileStore) (disk : Disk) : DirectoryWatch :=
  ({ store } : DirectoryWatch).notice disk

def take (watch : DirectoryWatch) : Option Delivery × DirectoryWatch :=
  (watch.waiting.head?, { watch with waiting := watch.waiting.tail })

end DirectoryWatch

end GatewayControl
