/-!
# Texts of helpers for classes

Functions that older editions need for classes and what they inherit.
In these texts `⟨` and `⟩` stand for braces.
-/

namespace ScriptHost.Helper

/-- It refuses `this` before the base class made it. -/
def assertThisInitializedText : String :=
  "function _assert_this_initialized(self) ⟨
     if (self === void 0) ⟨
       throw new ReferenceError('this hasn\\'t been initialised - super() hasn\\'t been called');
     ⟩
     return self;
   ⟩"

/-- It calls the constructor of the base class. -/
def callSuperText : String :=
  "function _call_super(_this, derived, args) ⟨
     derived = _get_prototype_of(derived);
     return _possible_constructor_return(_this, _is_native_reflect_construct() ? Reflect.construct(derived, args || [], _get_prototype_of(_this).constructor) : derived.apply(_this, args));
   ⟩"

/-- It refuses a class that is called without `new`. -/
def classCallCheckText : String :=
  "function _class_call_check(instance, Constructor) ⟨
     if (!(instance instanceof Constructor)) ⟨
       throw new TypeError('Cannot call a class as a function');
     ⟩
   ⟩"

/-- It calls a constructor with the items of an array. -/
def constructText : String :=
  "function _construct(Parent, args, Class) ⟨
     if (_is_native_reflect_construct()) ⟨
       _construct = Reflect.construct;
     ⟩ else ⟨
       _construct = function construct(Parent, args, Class) ⟨
         var a = [
           null
         ];
         a.push.apply(a, args);
         var Constructor = Function.bind.apply(Parent, a);
         var instance = new Constructor();
         if (Class) _set_prototype_of(instance, Class.prototype);
         return instance;
       ⟩;
     ⟩
     return _construct.apply(null, arguments);
   ⟩"

/-- It defines the members of a class. -/
def createClassText : String :=
  "function _defineProperties(target, props) ⟨
     for(var i = 0; i < props.length; i++)⟨
       var descriptor = props[i];
       descriptor.enumerable = descriptor.enumerable || false;
       descriptor.configurable = true;
       if ('value' in descriptor) descriptor.writable = true;
       Object.defineProperty(target, descriptor.key, descriptor);
     ⟩
   ⟩
   function _create_class(Constructor, protoProps, staticProps) ⟨
     if (protoProps) _defineProperties(Constructor.prototype, protoProps);
     if (staticProps) _defineProperties(Constructor, staticProps);
     return Constructor;
   ⟩"

/-- It reads a property of the base class. -/
def superGetText : String :=
  "function _get(target, property, receiver) ⟨
     if (typeof Reflect !== 'undefined' && Reflect.get) ⟨
       _get = Reflect.get;
     ⟩ else ⟨
       _get = function get(target, property, receiver) ⟨
         var base = _super_prop_base(target, property);
         if (!base) return;
         var desc = Object.getOwnPropertyDescriptor(base, property);
         if (desc.get) ⟨
           return desc.get.call(receiver || target);
         ⟩
         return desc.value;
       ⟩;
     ⟩
     return _get(target, property, receiver || target);
   ⟩"

/-- It finds the base of an object. -/
def getPrototypeOfText : String :=
  "function _get_prototype_of(o) ⟨
     _get_prototype_of = Object.setPrototypeOf ? Object.getPrototypeOf : function getPrototypeOf(o) ⟨
       return o.__proto__ || Object.getPrototypeOf(o);
     ⟩;
     return _get_prototype_of(o);
   ⟩"

/-- It makes a class the base of another one. -/
def inheritsText : String :=
  "function _inherits(subClass, superClass) ⟨
     if (typeof superClass !== 'function' && superClass !== null) ⟨
       throw new TypeError('Super expression must either be null or a function');
     ⟩
     subClass.prototype = Object.create(superClass && superClass.prototype, ⟨
       constructor: ⟨
         value: subClass,
         writable: true,
         configurable: true
       ⟩
     ⟩);
     if (superClass) _set_prototype_of(subClass, superClass);
   ⟩"

/-- It tells whether a function is one of the platform. -/
def isNativeFunctionText : String :=
  "function _is_native_function(fn) ⟨
     return Function.toString.call(fn).indexOf('[native code]') !== -1;
   ⟩"

/-- It chooses what a constructor made. -/
def possibleConstructorReturnText : String :=
  "function _possible_constructor_return(self, call) ⟨
     if (call && (_type_of(call) === 'object' || typeof call === 'function')) ⟨
       return call;
     ⟩
     return _assert_this_initialized(self);
   ⟩"

/-- It writes a property of the base class. -/
def superSetText : String :=
  "function set(target, property, value, receiver) ⟨
     if (typeof Reflect !== 'undefined' && Reflect.set) ⟨
       set = Reflect.set;
     ⟩ else ⟨
       set = function set(target, property, value, receiver) ⟨
         var base = _super_prop_base(target, property);
         var desc;
         if (base) ⟨
           desc = Object.getOwnPropertyDescriptor(base, property);
           if (desc.set) ⟨
             desc.set.call(receiver, value);
             return true;
           ⟩ else if (!desc.writable) ⟨
             return false;
           ⟩
         ⟩
         desc = Object.getOwnPropertyDescriptor(receiver, property);
         if (desc) ⟨
           if (!desc.writable) ⟨
             return false;
           ⟩
           desc.value = value;
           Object.defineProperty(receiver, property, desc);
         ⟩ else ⟨
           _define_property(receiver, property, value);
         ⟩
         return true;
       ⟩;
     ⟩
     return set(target, property, value, receiver);
   ⟩
   function _set(target, property, value, receiver, isStrict) ⟨
     var s = set(target, property, value, receiver || target);
     if (!s && isStrict) ⟨
       throw new Error('failed to set property');
     ⟩
     return value;
   ⟩"

/-- It makes an object the base of another one. -/
def setPrototypeOfText : String :=
  "function _set_prototype_of(o, p) ⟨
     _set_prototype_of = Object.setPrototypeOf || function setPrototypeOf(o, p) ⟨
       o.__proto__ = p;
       return o;
     ⟩;
     return _set_prototype_of(o, p);
   ⟩"

/-- It finds the object that has a property. -/
def superPropBaseText : String :=
  "function _super_prop_base(object, property) ⟨
     while(!Object.prototype.hasOwnProperty.call(object, property))⟨
       object = _get_prototype_of(object);
       if (object === null) break;
     ⟩
     return object;
   ⟩"

/-- It makes a property of the base class a place to be read and written. -/
def superUpdateText : String :=
  "function _update(target, property, receiver, isStrict) ⟨
     return ⟨
       get _ () ⟨
         return _get(target, property, receiver);
       ⟩,
       set _ (value)⟨
         _set(target, property, value, receiver, isStrict);
       ⟩
     ⟩;
   ⟩"

/-- It makes a class of the platform one that can be extended. -/
def wrapNativeSuperText : String :=
  "function _wrap_native_super(Class) ⟨
     var _cache = typeof Map === 'function' ? new Map() : undefined;
     _wrap_native_super = function wrapNativeSuper(Class) ⟨
       if (Class === null || !_is_native_function(Class)) return Class;
       if (typeof Class !== 'function') ⟨
         throw new TypeError('Super expression must either be null or a function');
       ⟩
       if (typeof _cache !== 'undefined') ⟨
         if (_cache.has(Class)) return _cache.get(Class);
         _cache.set(Class, Wrapper);
       ⟩
       function Wrapper() ⟨
         return _construct(Class, arguments, _get_prototype_of(this).constructor);
       ⟩
       Wrapper.prototype = Object.create(Class.prototype, ⟨
         constructor: ⟨
           value: Wrapper,
           enumerable: false,
           writable: true,
           configurable: true
         ⟩
       ⟩);
       return _set_prototype_of(Wrapper, Class);
     ⟩;
     return _wrap_native_super(Class);
   ⟩"

/-- It tells whether classes can be extended. -/
def isNativeReflectConstructText : String :=
  "function _is_native_reflect_construct() ⟨
     try ⟨
       var result = !Boolean.prototype.valueOf.call(Reflect.construct(Boolean, [], function() ⟨⟩));
     ⟩ catch (_) ⟨⟩
     return (_is_native_reflect_construct = function() ⟨
       return !!result;
     ⟩)();
   ⟩"

end ScriptHost.Helper
