import Datav.Js
import Datav.Variable.Basic
import Datav.Variable.Load
import Datav.Variable.Storage
import Datav.Variable.Cascade
import Datav.Panel.Basic
import Datav.Panel.Alerts
import Datav.Panel.Query
import Datav.Panel.System
import Datav.Panel.Dataset
import Datav.Panel.Interleave
import Datav.Table
import Datav.Variable.Init
import Datav.Panel.Gate
import Datav.Panel.Dedup
import Datav.Variable.Lifecycle
import Datav.Panel.Isolation
