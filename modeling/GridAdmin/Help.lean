/-!
# Usage texts

The overview lists all verbs for users; each topic explains one verb. Both are
data. An unknown topic has no text.

## Main definitions

* `Help.usage`: the lines that a request for help prints.
-/

namespace GridAdmin.Help

/-- The overview. -/
def overview : List String :=
  [ "Usage: strata-admin [OPTIONS] [command]",
    "A blank command line starts interactive mode, which prompts and runs",
    "commands until 'quit' or 'q' is entered.",
    "Single or double quotes group words containing blanks.",
    "Commands are:",
    " lu [name[#Zone]] (list user info; details if name entered)",
    " lua [name[#Zone]] (list user authentication names)",
    " luan Name (list users associated with an authentication name)",
    " luz Zone [User] (list users of a zone)",
    " lt [name] [subname] (list token info)",
    " lr [name] (list resource info)",
    " ls [logical_path <string>|data_id <int>] [replica_number <int>|resource_hierarchy <string>] (list replica info)",
    " lz [name] (list zone info)",
    " lg [name] (list group info (user member list))",
    " lgd name (list group details)",
    " mkuser Name[#Zone] Type (make user)",
    " moduser Name[#Zone] [ type | comment | info | password ] newValue",
    " aua Name[#Zone] Auth-Name (add user authentication name)",
    " rua Name[#Zone] Auth-Name (remove user authentication name)",
    " rpp Name (remove PAM-derived password for user Name)",
    " rmuser Name[#Zone] (remove user)",
    " rmdir Name (remove directory)",
    " mkresc Name Type [Host:Path] [ContextString] (make resource)",
    " modresc Name [name, type, host, path, status, comment, info, free_space, context, rebalance] Value",
    " modrescdatapaths Name oldpath newpath [user] (update data-object paths)",
    " rmresc Name (remove resource)",
    " addchildtoresc Parent Child [ContextString]",
    " rmchildfromresc Parent Child",
    " mkzone Name Type(remote) [Connection-info] [Comment] (make zone)",
    " modzone Name [ name | conn | comment ] newValue (modify zone)",
    " modzonecollacl null|read userOrGroup /remotezone (set strict-mode root ACLs)",
    " rmzone Name (remove zone)",
    " mkgroup Name (make group)",
    " rmgroup Name (remove group)",
    " atg groupName userName[#Zone] (add user to group)",
    " rfg groupName userName[#Zone] (remove user from group)",
    " at tokenNamespace Name [Value1] [Value2] [Value3] (add token)",
    " rt tokenNamespace Name [Value1] (remove token)",
    " spass Password Key (print a scrambled form of a password)",
    " dspass Password Key (descramble a password and print it)",
    " ctime Time (convert an integer catalog time to local time; & other forms)",
    " suq User ResourceName-or-'total' Value (set user quota)",
    " sgq Group ResourceName-or-'total' Value (set group quota)",
    " lq [Name] (list quotas)",
    " cu (calculate usage (for quotas))",
    " rum (remove unused metadata (user-defined AVUs))",
    " asq 'SQL query' [Alias] (add specific query)",
    " rsq 'SQL query' or Alias (remove specific query)",
    " modrepl [logical_path <string>|data_id <int>] [replica_number <int>|resource_hierarchy <string>] ATTR_NAME VALUE",
    " get_delay_server_info",
    " set_delay_server HOSTNAME",
    " help (or h) [command] (this help, or more details on a command)" ]

/-- The text of each topic. -/
def topics : List (String × List String) :=
  [ ("lu",
      [ "lu [name[#Zone]] (list user info; details if name entered)",
        "Just 'lu' briefly lists the defined users as name#Zone.",
        "With a user name, the full catalog entry for that user is shown.",
        "Also see 'luz' and 'lz'." ]),
    ("lua",
      [ "lua [name[#Zone]] (list user authentication names)",
        "Without a name, lists every authentication name with its user.",
        "With a name, lists the authentication names of that user only." ]),
    ("luan",
      [ "luan Name (list users associated with an authentication name)",
        "For example:",
        "  luan '/C=US/O=INC/OU=DICE/CN=Some User/UID=someone'" ]),
    ("luz", ["luz Zone [User] (list user info for a zone; details if name entered)"]),
    ("lt",
      [ "lt [name] [subname]",
        "List token information. Just 'lt' lists the token namespaces.",
        "With a namespace, lists the values allowed for it. With a subname,",
        "shows the details of that value, for example: lt data_type email",
        "The SQL wildcard % may be used in the subname.",
        "'lt resc_type' lists the resource types the server supports." ]),
    ("lr",
      [ "lr [name] (list resource info)",
        "Just 'lr' lists resource names; with a name, shows its details." ]),
    ("ls",
      [ "ls [logical_path <string>|data_id <int>] [replica_number <int>|resource_hierarchy <string>]",
        "List the catalog attributes of a single replica.",
        " ",
        "The data object is selected by its absolute logical path or its id.",
        "The replica is selected by its number or its resource hierarchy." ]),
    ("lz",
      [ "lz [name] (list zone info)",
        "Just 'lz' lists zone names; with a name, shows its details." ]),
    ("lg",
      [ "lg [name] (list group info (user member list))",
        "Just 'lg' lists the groups; with a name, lists the members of that",
        "group as user#zone. Requires rodsadmin privileges." ]),
    ("lgd", ["lgd name (list group details)"]),
    ("mkuser",
      [ "mkuser Name[#Zone] Type (make user)",
        "Create a user. Use 'lt user_type' for the valid types.",
        "Set a password afterwards with 'moduser Name password Value'." ]),
    ("moduser",
      [ "moduser Name[#Zone] [ type | comment | info | password ] newValue",
        "Modify a user. Passwords are scrambled with your current password",
        "before they are sent. Demoting another rodsadmin of the local zone",
        "is refused." ]),
    ("aua", ["aua Name[#Zone] Auth-Name (add user authentication name)"]),
    ("rua", ["rua Name[#Zone] Auth-Name (remove user authentication name)"]),
    ("rpp",
      [ "rpp Name (remove PAM-derived password for user Name)",
        "Forces the user to authenticate through PAM again." ]),
    ("rmuser", ["rmuser Name[#Zone] (remove user)"]),
    ("mkdir",
      [ "mkdir Name [username] (make directory(collection))",
        "This is a low-level command that is not meant to be called directly.",
        "Pass -f to run it anyway." ]),
    ("rmdir", ["rmdir Name (remove directory)"]),
    ("mkresc",
      [ "mkresc Name Type [Host:Path] [ContextString] (make resource)",
        "Create a resource. Whitespace in the type is removed.",
        "The context string holds semi-colon separated key=value pairs.",
        "Use 'lt resc_type' for the available types." ]),
    ("modresc",
      [ "modresc Name [name, type, host, path, status, comment, info, free_space, context, rebalance] Value",
        "Modify a resource. Renaming asks for confirmation.",
        "After changing the path, 'modrescdatapaths' may be needed." ]),
    ("modrescdatapaths",
      [ "modrescdatapaths Name oldpath newpath [user] (update data-object paths)",
        "Rewrites the physical paths of data objects on a resource by",
        "replacing the leading oldpath with newpath, optionally for one user.",
        "Asks for confirmation first." ]),
    ("rmresc",
      [ "rmresc Name (remove resource)",
        "With --dryrun, only checks whether the resource could be removed." ]),
    ("addchildtoresc", ["addchildtoresc Parent Child [ContextString]"]),
    ("rmchildfromresc", ["rmchildfromresc Parent Child"]),
    ("mkzone", ["mkzone Name Type(remote) [Connection-info] [Comment] (make zone)"]),
    ("modzone",
      [ "modzone Name [ name | conn | comment ] newValue (modify zone)",
        "Renaming the local zone asks for confirmation." ]),
    ("modzonecollacl",
      [ "modzonecollacl null|read userOrGroup /remotezone (set strict-mode root ACLs)" ]),
    ("rmzone", ["rmzone Name (remove zone)"]),
    ("mkgroup", ["mkgroup Name (make group)"]),
    ("rmgroup", ["rmgroup Name (remove group)"]),
    ("atg", ["atg groupName userName[#Zone] (add user to group)"]),
    ("rfg", ["rfg groupName userName[#Zone] (remove user from group)"]),
    ("at", ["at tokenNamespace Name [Value1] [Value2] [Value3] (add token)"]),
    ("rt", ["rt tokenNamespace Name [Value1] (remove token)"]),
    ("spass", ["spass Password Key (print a scrambled form of a password)"]),
    ("dspass",
      [ "dspass Password Key (descramble a password and print it)",
        "Without arguments, reads the password and then the key from stdin." ]),
    ("ctime",
      [ "ctime Time (convert an integer catalog time to local time)",
        "ctime now (print the current time as an integer catalog time)",
        "ctime str YYYY-MM-DD.hh:mm:ss (convert a local time to integer form)" ]),
    ("suq", ["suq User ResourceName-or-'total' Value (set user quota)"]),
    ("sgq", ["sgq Group ResourceName-or-'total' Value (set group quota)"]),
    ("lq",
      [ "lq [Name] (list quotas)",
        "Lists per-resource quotas, then global quotas, for all users and",
        "groups or only for Name." ]),
    ("cu", ["cu (calculate usage (for quotas))"]),
    ("rum", ["rum (remove unused metadata (user-defined AVUs))"]),
    ("asq", ["asq 'SQL query' [Alias] (add specific query)"]),
    ("rsq", ["rsq 'SQL query' or Alias (remove specific query)"]),
    ("modrepl",
      [ "modrepl [logical_path <string>|data_id <int>] [replica_number <int>|resource_hierarchy <string>] ATTR_NAME VALUE",
        "Change one catalog attribute of a single replica.",
        " ",
        "These attributes identify the replica and cannot be changed:",
        "    COLL_ID, DATA_ID, DATA_MAP_ID, DATA_NAME, DATA_RESC_HIER, DATA_RESC_NAME" ]),
    ("get_delay_server_info",
      [ "get_delay_server_info",
        "Print the current delay server leader and successor as JSON.",
        "Requires rodsadmin privileges." ]),
    ("set_delay_server",
      [ "set_delay_server HOSTNAME",
        "Record HOSTNAME as the successor delay server for the local zone." ]),
    ("help", [" help (or h) [command] (general help, or more details on a command)"]),
    ("h", [" help (or h) [command] (general help, or more details on a command)"]) ]

/-- The lines of a topic; the overview for the empty topic. -/
def usage (topic : String) : List String :=
  if topic = "" then overview
  else ((topics.find? fun entry => decide (entry.1 = topic)).map (·.2)).getD []

end GridAdmin.Help
