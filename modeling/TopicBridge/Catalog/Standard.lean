import TopicBridge.Catalog.Basic

/-!
# The standard message types
-/

namespace TopicBridge.Catalog

/-- The standard types, each after the types that it nests. -/
def standardTypes : List (String × String) :=
  [("std_msgs/Header", "uint32 seq\ntime stamp\nstring frame_id"),
   ("std_msgs/String", "string data"),
   ("std_msgs/Bool", "bool data"),
   ("std_msgs/Int32", "int32 data"),
   ("std_msgs/Float32", "float32 data"),
   ("std_msgs/Float64", "float64 data"),
   ("geometry_msgs/Vector3", "float64 x\nfloat64 y\nfloat64 z"),
   ("geometry_msgs/Point", "float64 x\nfloat64 y\nfloat64 z"),
   ("geometry_msgs/Quaternion", "float64 x\nfloat64 y\nfloat64 z\nfloat64 w"),
   ("geometry_msgs/Pose", "Point position\nQuaternion orientation"),
   ("geometry_msgs/PoseStamped", "Header header\nPose pose"),
   ("geometry_msgs/Twist", "Vector3 linear\nVector3 angular"),
   ("sensor_msgs/LaserScan",
    "Header header\nfloat32 angle_min\nfloat32 angle_max\nfloat32 angle_increment\n" ++
    "float32 time_increment\nfloat32 scan_time\nfloat32 range_min\nfloat32 range_max\n" ++
    "float32[] ranges\nfloat32[] intensities"),
   ("sensor_msgs/JointState",
    "Header header\nstring[] name\nfloat64[] position\nfloat64[] velocity\nfloat64[] effort")]

/-- The catalog of the standard types. -/
def standard : Catalog :=
  (registerAll {} standardTypes).2

end TopicBridge.Catalog
