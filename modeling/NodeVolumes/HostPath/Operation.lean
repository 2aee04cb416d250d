import NodeVolumes.HostPath.Path
import NodeVolumes.HostPath.Quota
import NodeVolumes.Text.Replace

/-! # Helper operations

What a helper pod does to a volume directory, as the command of its container. The pod sees the
directory above the volume at `/data/`.

* `HelperOperation.command` gives the command, or refuses names, modes and limits that do not fit
  into one.
* `quotaScript` fills the templates of the file systems that know project quotas. -/

namespace NodeVolumes.HostPath

/-- The mount point of the directory above the volume. -/
def dataMount : String := "/data/"

/-- The mount point of the node's devices. -/
def devMount : String := "/dev/"

/-- What a helper pod does to the volume directory. -/
inductive HelperOperation where
  /-- Make the directory with a mode. -/
  | init (mode : String)
  /-- Set a project quota on it. -/
  | quota (limits : QuotaLimits)
  /-- Remove it. -/
  | cleanup
  deriving DecidableEq, Repr

/-! ### The quota script -/

/-- The quota commands for one family of file systems. -/
structure QuotaTemplate where
  /-- The name that `stat -f -c %T` prints. -/
  fileSystem : String
  /-- The commands, with holes for the directory and both limits. -/
  body : String
  /-- Whether the tools take the unit of a limit in upper case. -/
  upperLimits : Bool
  deriving DecidableEq, Repr

/-- The hole for the directory. -/
def dirHole : String := "\x7bdir\x7d"

/-- The hole for the soft limit. -/
def softHole : String := "\x7bsoft\x7d"

/-- The hole for the hard limit. -/
def hardHole : String := "\x7bhard\x7d"

/-- The template for XFS. -/
def xfsTemplate : QuotaTemplate where
  fileSystem := "xfs"
  body :=
    "PID=`xfs_quota -x -c 'report -h' /data | tail -2 | " ++
    "awk 'NR==1\x7bprint substr ($1,2)\x7d+0'` ; " ++
    "PID=`expr $PID + 1` ; " ++
    "xfs_quota -x -c 'project -s -p " ++ dirHole ++ " '$PID /data ; " ++
    "xfs_quota -x -c 'limit -p bsoft=" ++ softHole ++ " bhard=" ++ hardHole ++ " '$PID /data ;"
  upperLimits := false

/-- The template for the ext family. -/
def extTemplate : QuotaTemplate where
  fileSystem := "ext2/ext3"
  body :=
    "PID=`repquota -P /data | tail -3 | awk 'NR==1\x7bprint substr ($1,2)\x7d+0'` ; " ++
    "PID=`expr $PID + 1` ; " ++
    "chattr +P -p $PID " ++ dirHole ++ " ; " ++
    "setquota -P $PID " ++ softHole ++ " " ++ hardHole ++ " 0 0 /data ;"
  upperLimits := true

/-- A text with a value in every hole of one kind. -/
def fillHole (hole value body : String) : String :=
  String.ofList (Text.replaceAll hole.toList value.toList body.toList)

/-- A limit as the tools of a template take it. -/
def QuotaTemplate.limit (t : QuotaTemplate) (limit : String) : String :=
  if t.upperLimits then limit.toUpper else limit

/-- The commands of a template for a directory and its limits. -/
def QuotaTemplate.fill (t : QuotaTemplate) (target : String) (limits : QuotaLimits) : String :=
  fillHole hardHole (t.limit limits.hard)
    (fillHole softHole (t.limit limits.soft) (fillHole dirHole target t.body))

/-- The branch of the script for one template, opened by `if` or `elif`. -/
def quotaBranch (keyword : String) (t : QuotaTemplate) (target : String) (limits : QuotaLimits) :
    String :=
  keyword ++ " [[ \"$FS\" == \"" ++ t.fileSystem ++ "\" ]]; then " ++ t.fill target limits ++ " "

/-- The script that sets the limits on a directory. On a file system without a template it removes
the directory and fails, so that no volume is left without its limits. -/
def quotaScript (target : String) (limits : QuotaLimits) : String :=
  "FS=`stat -f -c %T /data` ; " ++ quotaBranch "if" xfsTemplate target limits ++
    quotaBranch "elif" extTemplate target limits ++
    "else rm -rf " ++ target ++ " ; exit 1; fi"

/-! ### Commands -/

namespace HelperOperation

/-- The short name, which starts the names of its pods. -/
def name : HelperOperation → String
  | init _ => "init"
  | quota _ => "quota"
  | cleanup => "cleanup"

/-- Tells the modes that can be passed on: octal digits, at least one. -/
def isMode (mode : String) : Bool :=
  mode ≠ "" && mode.toList.all fun c => '0' ≤ c && c ≤ '7'

/-- The command that works on a directory under the data mount. -/
def command (op : HelperOperation) (dir : String) : Except Error (List String) :=
  if !isSafeName dir then
    .error (.invalidHelperOptions
      ("volume directory " ++ Text.quoted dir ++ " contains unsupported characters"))
  else
    let target := dataMount ++ dir
    match op with
    | init mode =>
      if isMode mode then .ok ["mkdir", "-m", mode, "-p", target]
      else .error (.invalidHelperOptions ("invalid mode " ++ Text.quoted mode))
    | quota limits =>
      if limits.isWellFormed then .ok ["sh", "-c", quotaScript target limits]
      else .error (.invalidHelperOptions ("invalid quota limits soft=" ++
        Text.quoted limits.soft ++ " hard=" ++ Text.quoted limits.hard))
    | cleanup => .ok ["rm", "-rf", target]

end HelperOperation
end NodeVolumes.HostPath
